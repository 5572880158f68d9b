import MsrpceDcerpc.Lib.Triple
import MsrpceDcerpc.Proof.Simulation
import MsrpceDcerpc.Spec.Provider

/-!
# Invariants of a client

What holds of a world and is kept by each thing a client does with its
transport and its provider (`WorldInvariant`) is kept by a bind, whatever its
result, and by whatever the client is used for (`WorldInvariant.bind`,
`WorldInvariant.uses`). A client uses its provider for `init_context` and
`step`, and for nothing else that could change it: a property of the provider
that these two keep (`ProviderInvariant`) is such an invariant.
-/

namespace Rpce

open Rust Eff

variable {T A : Type}

section

variable [DataRepresentation] [RpcTransport T] [RpcAuthProvider A]

/-- What a client does keeps `I`. -/
structure WorldInvariant (I : World T A → Prop) : Prop where
  initContext : ∀ {w a} target, w.authProvider = some a → I w → I ((initContext a target).exec w).2
  step : ∀ {w a} challenge, w.authProvider = some a → I w → I ((stepProvider a challenge).exec w).2
  sendPdu : ∀ {bytes}, BuiltPdu bytes → Keeps I (sendPdu bytes)
  recvPdu : Keeps I recvPdu
  callRaw : ∀ {w} opnum requestStub, I w → I (w.log (.callRaw opnum requestStub))

namespace WorldInvariant

variable {I : World T A → Prop}

/-! ## Binding -/

theorem keeps_initAuth (hI : WorldInvariant I) (target : String) : Keeps I (initAuth target) := by
  refine .get_bind fun w hw => ?_
  cases ha : w.authProvider with
  | none => exact hw
  | some a => exact Keeps.bind_at (hI.initContext target ha hw) fun _ => .pure _

theorem keeps_answerChallenge (hI : WorldInvariant I) (callId : UInt32) (response : PduPacket) :
    Keeps I (answerChallenge callId response) := by
  refine .get_bind fun w hw => ?_
  cases ha : w.authProvider with
  | none => exact hw
  | some a =>
    dsimp only
    split
    · exact hw
    refine Keeps.bind_at (hI.step response.authValue ha hw) fun token => ?_
    split
    · exact .pure ()
    refine .get_bind fun w' hw' => ?_
    cases w'.authProvider with
    | none => exact hw'
    | some a' =>
      refine Keeps.lift_bind (fun auth3 hauth3 => .lift_bind fun bytes hbytes => ?_) w' hw'
      exact hI.sendPdu ⟨auth3, built_of_authenticatedPacket hauth3, hbytes⟩

variable [UuidCrate]

theorem keeps_bindWithContextsInner (hI : WorldInvariant I) (proposed : List PresentationContext)
    (target : String) : Keeps I (bindWithContextsInner proposed target) := by
  refine .bind (.lift _) fun _ => .bind (hI.keeps_initAuth target) fun token => ?_
  refine .bind (.lift _) fun bind => .get_bind fun w hw => ?_
  refine Keeps.lift_bind (fun packet hpacket => .lift_bind fun bytes hbytes => ?_) w hw
  refine .bind (hI.sendPdu ⟨packet, built_of_bindPacket hpacket, hbytes⟩) fun _ => ?_
  refine .bind hI.recvPdu fun answer => .bind (.lift _) fun response => .bind (.lift _) fun _ => ?_
  split
  · refine .bind (.lift _) fun ack => .bind (.lift _) fun accepted => ?_
    exact .bind (hI.keeps_answerChallenge _ response) fun _ => .get_bind fun w hw => hw
  · exact .bind (.lift _) fun _ => .throw _
  · exact .throw _

/-- An invariant holds after a bind, and of the client if there is one. -/
theorem bind (hI : WorldInvariant I) {proposed : List PresentationContext} {target : String} {t : T}
    {authProvider : Option A} (h₀ : I { transport := t, authProvider, trace := [] })
    {r : Result (RpcClient T A)} {w : World T A}
    (h : (bindWithContextsInner proposed target).exec { transport := t, authProvider, trace := [] } =
      (r, w)) : I w ∧ ∀ c, r = .ok c → I c.toWorld := by
  have hkeeps := hI.keeps_bindWithContextsInner proposed target _ h₀
  rw [h] at hkeeps
  refine ⟨hkeeps, ?_⟩
  rintro c rfl
  rw [(bindWithContextsInner_ok rfl h).2.1]
  exact hkeeps

end WorldInvariant

/-! ## Calls -/

namespace WorldInvariant

variable {I : World T A → Prop}

open RpcClient

/-- The world of the client keeps `I`. -/
abbrev KeepsClient {α : Type} (I : World T A → Prop) (x : Eff (Stop Error) (RpcClient T A) α) : Prop :=
  Keeps (fun c : RpcClient T A => I c.toWorld) x

omit [DataRepresentation] [RpcTransport T] [RpcAuthProvider A] in
theorem keeps_onWorld {α : Type} {x : Eff (Stop Error) (World T A) α} (h : Keeps I x) :
    KeepsClient I (onWorld x) := .zoom h (fun _ h => h) fun _ _ _ h => h

theorem keeps_recvLoop (hI : WorldInvariant I) (callId : UInt32) (fuel : Nat) (responseStub : List UInt8)
    (sawFirst : Bool) : KeepsClient I (recvLoop callId fuel responseStub sawFirst) := by
  induction fuel generalizing responseStub sawFirst with
  | zero => exact .throw _
  | succ fuel ih =>
    refine .bind (keeps_onWorld hI.recvPdu) fun bytes => .bind (.lift _) fun packet => ?_
    have hverify : KeepsClient I (verifyResponsePacket bytes packet) := fun _ h => h
    refine .bind hverify fun _ => .bind (.lift _) fun _ => ?_
    split
    · refine .bind (.lift _) fun _ => .bind (.lift _) fun response => ?_
      split
      · exact .pure _
      · exact ih _ _
    · exact .bind (.lift _) fun _ => .throw _
    · exact .throw _

variable [UuidCrate]

theorem keeps_sendFragment (hI : WorldInvariant I) (callId : UInt32) (pfcFlags : UInt8)
    (request : RequestPdu) : KeepsClient I (sendFragment callId pfcFlags request) := by
  refine .bind_of (P := PduPacket.Built) ?_ fun packet hpacket => .lift_bind fun bytes hbytes => ?_
  · intro c hc
    rw [requestPacket, exec_bind_of_ok (exec_get c)]
    cases hcheck : checkAuthLevel c.authProvider with
    | error e =>
      rw [exec_lift_bind_of_error rfl]
      exact hc
    | ok u =>
      rw [exec_lift_bind_of_ok rfl, exec_lift]
      cases hpacket : PduPacket.fromRequestWithFlags callId pfcFlags request with
      | error e => exact hc
      | ok packet => exact ⟨built_of_fromRequestWithFlags hpacket, hc⟩
  · exact keeps_onWorld (hI.sendPdu ⟨packet, hpacket, hbytes⟩)

theorem keeps_sendLoop (hI : WorldInvariant I) (callId : UInt32) (opnum : UInt16)
    (requestStub : List UInt8) (maxStubPerFrag fuel offset : Nat) :
    KeepsClient I (sendLoop callId opnum requestStub maxStubPerFrag fuel offset) := by
  induction fuel generalizing offset with
  | zero =>
    rw [sendLoop]
    split
    · exact .throw _
    · exact .pure _
  | succ fuel ih =>
    rw [sendLoop]
    split
    · refine .bind (.lift _) fun stubData => .bind .get fun c => ?_
      exact .bind (hI.keeps_sendFragment _ _ _) fun _ => ih _
    · exact .pure _

theorem keeps_sendRequestFragments (hI : WorldInvariant I) (callId : UInt32) (opnum : UInt16)
    (requestStub : List UInt8) : KeepsClient I (sendRequestFragments callId opnum requestStub) := by
  refine .bind .get fun c => .bind (.lift _) fun maxStubPerFrag => .bind (.lift _) fun _ => ?_
  split
  · exact hI.keeps_sendFragment _ _ _
  · exact hI.keeps_sendLoop _ _ _ _ _ _

theorem keeps_callRaw (hI : WorldInvariant I) (fuel : Nat) (opnum : UInt16) (requestStub : List UInt8) :
    KeepsClient I (RpcClient.callRaw fuel opnum requestStub) := by
  refine .bind (.modify fun c hc => hI.callRaw opnum requestStub hc) fun _ => ?_
  have hnext : KeepsClient I (nextCallId (T := T) (A := A)) := fun _ h => h
  refine .bind hnext fun callId => .bind (hI.keeps_sendRequestFragments callId opnum requestStub) ?_
  exact fun _ => hI.keeps_recvLoop callId fuel [] false

/-- An invariant holds whatever a client is used for. -/
theorem uses (hI : WorldInvariant I) {c c' : RpcClient T A} {uses : List Use}
    (h : Run UseStep c uses c') (hc : I c.toWorld) : I c'.toWorld := by
  refine h.invariant (fun c => I c.toWorld) (fun s use s' hs hstep => ?_) hc
  cases hstep with
  | @callRaw _ fuel opnum requestStub _ hexec =>
    have hkeeps := hI.keeps_callRaw fuel opnum requestStub s hs
    rw [hexec] at hkeeps
    exact hkeeps
  | withMaxXmitFrag => exact hs

end WorldInvariant

end

/-! ## Providers -/

section

variable [RpcAuthProvider A]

/-- The two methods of a provider keep `I`. -/
structure ProviderInvariant (I : A → Prop) : Prop where
  initContext : ∀ a target, I a → I (RpcAuthProvider.initContext a target).2
  step : ∀ a challenge, I a → I (RpcAuthProvider.step a challenge).2

/-- There is a provider, and `I` holds of it. -/
def World.Provides (I : A → Prop) (w : World T A) : Prop := ∃ a, w.authProvider = some a ∧ I a

theorem ProviderInvariant.provides [DataRepresentation] [RpcTransport T] {I : A → Prop}
    (hI : ProviderInvariant I) : WorldInvariant (World.Provides (T := T) I) where
  initContext {w a} target ha := by
    rintro ⟨a', ha', hIa⟩
    obtain rfl := Option.some.inj (ha.symm.trans ha')
    exact ⟨_, rfl, hI.initContext a target hIa⟩
  step {w a} challenge ha := by
    rintro ⟨a', ha', hIa⟩
    obtain rfl := Option.some.inj (ha.symm.trans ha')
    exact ⟨_, rfl, hI.step a challenge hIa⟩
  sendPdu _ := fun _ h => h
  recvPdu := fun _ h => h
  callRaw _ _ h := h

namespace ProviderUse

@[simp] theorem returned_append (uses uses' : List ProviderUse) :
    returned (uses ++ uses') = returned uses ++ returned uses' := List.filterMap_append

@[simp] theorem challenges_append (uses uses' : List ProviderUse) :
    challenges (uses ++ uses') = challenges uses ++ challenges uses' := List.filterMap_append

omit [RpcAuthProvider A] in
@[simp] theorem ofTrace_append (trace trace' : List (Event A)) :
    ofTrace (trace ++ trace') = ofTrace trace ++ ofTrace trace' := List.filterMap_append

/-- The provider of `w` is `a₀`, used as was recorded. -/
def Replayed (a₀ : A) (w : World T A) : Prop := w.Provides fun a => Run Step a₀ (ofTrace w.trace) a

theorem Replayed.log {a₀ a' : A} {w : World T A} {e : Event A} (h : Replayed a₀ w)
    (hstep : ∀ a, w.authProvider = some a → ∃ use, ofTrace [e] = [use] ∧ Step a use a') :
    Replayed a₀ ({ w with authProvider := some a' }.log e) := by
  obtain ⟨a, ha, hrun⟩ := h
  obtain ⟨use, he, hstep⟩ := hstep a ha
  refine ⟨a', rfl, ?_⟩
  show Run Step a₀ (ofTrace (w.trace ++ [e])) a'
  rw [ofTrace_append, he]
  exact hrun.concat hstep

theorem Replayed.log_other {a₀ : A} {w : World T A} {e : Event A} (h : Replayed a₀ w)
    (he : ofTrace [e] = []) (t : T) : Replayed a₀ ({ w with transport := t }.log e) := by
  obtain ⟨a, ha, hrun⟩ := h
  refine ⟨a, ha, ?_⟩
  show Run Step a₀ (ofTrace (w.trace ++ [e])) a
  rwa [ofTrace_append, he, List.append_nil]

theorem replayed_invariant [DataRepresentation] [RpcTransport T] (a₀ : A) :
    WorldInvariant (Replayed (T := T) a₀) where
  initContext target ha h := h.log fun a' ha' => ⟨_, rfl, by
    obtain rfl := Option.some.inj (ha.symm.trans ha')
    exact .initContext rfl⟩
  step challenge ha h := h.log fun a' ha' => ⟨_, rfl, by
    obtain rfl := Option.some.inj (ha.symm.trans ha')
    exact .step rfl⟩
  sendPdu _ := fun _ h => h.log_other rfl _
  recvPdu := fun _ h => h.log_other rfl _
  callRaw _ _ h := h.log_other rfl _

/-- Each PDU is recorded with the provider, which was `a₀`, as the uses before it
left it. -/
def Recorded (a₀ : A) (trace : List (Event A)) : Prop :=
  Everywhere (fun before e _ => ∀ bytes authProvider result, e = .sendPdu bytes authProvider result →
    ∃ a, authProvider = some a ∧ Run Step a₀ (ofTrace before) a) trace

theorem Recorded.log {a₀ : A} {w : World T A} {e : Event A} (h : Recorded a₀ w.trace)
    (he : ∀ bytes authProvider result, e = .sendPdu bytes authProvider result →
      ∃ a, authProvider = some a ∧ Run Step a₀ (ofTrace w.trace) a) : Recorded a₀ (w.log e).trace := by
  refine Everywhere.append_iff.mpr ⟨h, Everywhere.singleton_iff.mpr ?_⟩
  rw [List.append_nil]
  exact he

theorem recorded_invariant [DataRepresentation] [RpcTransport T] (a₀ : A) :
    WorldInvariant fun w : World T A => Replayed a₀ w ∧ Recorded a₀ w.trace where
  initContext target ha := by
    rintro ⟨hreplayed, hrecorded⟩
    exact ⟨(replayed_invariant a₀).initContext target ha hreplayed, hrecorded.log nofun⟩
  step challenge ha := by
    rintro ⟨hreplayed, hrecorded⟩
    exact ⟨(replayed_invariant a₀).step challenge ha hreplayed, hrecorded.log nofun⟩
  sendPdu hbuilt := by
    rintro w ⟨hreplayed, hrecorded⟩
    refine ⟨(replayed_invariant a₀).sendPdu hbuilt w hreplayed, hrecorded.log ?_⟩
    rintro _ _ _ heq
    cases heq
    exact hreplayed
  recvPdu := by
    rintro w ⟨hreplayed, hrecorded⟩
    exact ⟨(replayed_invariant a₀).recvPdu w hreplayed, hrecorded.log nofun⟩
  callRaw opnum requestStub := by
    rintro ⟨hreplayed, hrecorded⟩
    exact ⟨(replayed_invariant a₀).callRaw opnum requestStub hreplayed, hrecorded.log nofun⟩

omit [RpcAuthProvider A] in
theorem ofTrace_log_other {w : World T A} {e : Event A} (h : ofTrace w.trace = [])
    (he : ofTrace [e] = []) : ofTrace (w.trace ++ [e]) = [] := by
  rw [ofTrace_append, h, he]
  rfl

/-- No provider comes from nowhere. -/
theorem none_invariant [DataRepresentation] [RpcTransport T] :
    WorldInvariant fun w : World T A => w.authProvider = none ∧ ofTrace w.trace = [] where
  initContext _ ha h := by cases ha.symm.trans h.1
  step _ ha h := by cases ha.symm.trans h.1
  sendPdu _ := fun _ h => ⟨h.1, ofTrace_log_other h.2 rfl⟩
  recvPdu := fun _ h => ⟨h.1, ofTrace_log_other h.2 rfl⟩
  callRaw _ _ h := ⟨h.1, ofTrace_log_other h.2 rfl⟩

end ProviderUse

end

end Rpce
