import MsrpceDcerpc.Proof.HandshakeTrace
import MsrpceDcerpc.Proof.Calls
import MsrpceDcerpc.Proof.Fragmentation
import MsrpceDcerpc.Proof.Invariant
import MsrpceDcerpc.Spec.Provider

/-!
# Authentication levels

No PDU leaves a client, and no stub is returned, while the level of its
provider is one that version 1 does not support: not in a bind
(`Handshake.sentSupported`), where the provider changes between the PDUs, and
not in any use of a bound client (`UseStep.sentSupported`), where it does not.
The provider is there all the time, as its uses left it
(`ProviderUse.recorded_invariant`).
-/

namespace Rpce

open Rust Eff

variable {T A : Type}

section

variable [RpcAuthProvider A]

theorem SentSupported.append {t₁ t₂ : List (Event A)} (h₁ : SentSupported t₁)
    (h₂ : SentSupported t₂) : SentSupported (t₁ ++ t₂) := fun bytes a result hmem =>
  (List.mem_append.mp hmem).elim (h₁ bytes a result) (h₂ bytes a result)

theorem SentSupported.of_sent_eq_nil {trace : List (Event A)} (h : sent trace = []) :
    SentSupported trace := fun _ _ _ hmem => nomatch List.filterMap_eq_nil_iff.mp h _ hmem

theorem SentSupported.accepted {authProvider : Option A}
    (h : LevelSupported authProvider) (pdus : List (List UInt8)) :
    SentSupported (pdus.map (.sendPdu · authProvider (.ok ()))) := fun bytes a result hmem => by
  obtain ⟨_, -, heq⟩ := List.mem_map.mp hmem
  cases heq
  exact h

/-! ## Calls -/

section

variable [RpcTransport T] {c c' : RpcClient T A} {pdus : List (List UInt8)} {r : Result Unit}

open RpcClient in
/-- PDUs are sent with the provider of the client, which stays as it is. -/
theorem SentSupported.sendFrames (h : SentSupported c.trace) (hlevel : LevelSupported c.authProvider)
    (hexec : (sendFrames pdus).exec c = (r, c')) : SentSupported c'.trace := by
  rcases acceptsAll_or c.transport pdus with ⟨t, hall⟩ | ⟨k, pdu, t, e, t', hget, hall, hs⟩
  · cases (sendFrames_accepted hall).symm.trans hexec
    exact h.append (.accepted hlevel pdus)
  · cases (sendFrames_refused hget hall hs).symm.trans hexec
    refine (h.append (.accepted hlevel _)).append fun bytes a result hmem => ?_
    cases List.mem_singleton.mp hmem
    exact hlevel

variable [DataRepresentation] [UuidCrate]

open RpcClient in
theorem SentSupported.callRaw {fuel : Nat} {opnum : UInt16} {requestStub : List UInt8}
    {r : Result (List UInt8)} (h : SentSupported c.trace)
    (hexec : (callRaw fuel opnum requestStub).exec c = (r, c')) : SentSupported c'.trace := by
  have hstarted : SentSupported (started c opnum requestStub).trace :=
    h.append (.of_sent_eq_nil rfl)
  by_cases hc : CanSend c
  · rw [callRaw_exec_of_canSend _ _ _ hc, exec_bind] at hexec
    rcases hs : (RpcClient.sendFrames (requestFrames c.callId c.contextId opnum requestStub
      c.maxXmitFrag)).exec (started c opnum requestStub) with ⟨e | u, c₁⟩
    · rw [hs] at hexec
      cases hexec
      exact hstarted.sendFrames hc.2 hs
    · rw [hs] at hexec
      obtain ⟨events, hext, hsent, -, -⟩ := recvLoop_kept hexec
      rw [hext.trace]
      exact (hstarted.sendFrames hc.2 hs).append (.of_sent_eq_nil hsent)
  · obtain ⟨e, he⟩ := callRaw_exec_of_not_canSend fuel opnum requestStub hc
    cases he.symm.trans hexec
    exact hstarted

/-- A client is used: what it sends is supported, and its provider stays as it
is. -/
theorem UseStep.sentSupported {use : Use} (h : UseStep c use c') (hs : SentSupported c.trace) :
    SentSupported c'.trace := by
  cases h with
  | callRaw hexec => exact hs.callRaw hexec
  | withMaxXmitFrag m => exact hs

end

/-! ## A bind -/

section

variable [DataRepresentation] [UuidCrate] {proposed : List PresentationContext} {target : String}
  {authProvider : Option A}

theorem Handshake.sentSupported {trace : List (Event A)} {done : Bool}
    (h : Handshake proposed target authProvider trace done) : SentSupported trace := by
  have hrest : ∀ {authProvider' init bytes} {rest : List (Event A)},
      Proposes proposed target authProvider authProvider' init bytes → SentSupported rest →
      SentSupported (init ++ rest) := fun hproposes hrest => by
    obtain ⟨_, _, hinit, -⟩ := hproposes.bind
    exact .append (.of_sent_eq_nil hinit.sent_eq_nil) hrest
  cases h with
  | empty _ => exact .of_sent_eq_nil rfl
  | initFailed _ _ => exact .of_sent_eq_nil rfl
  | notProposed hinit _ => exact .of_sent_eq_nil hinit.sent_eq_nil
  | notSent h | refused h | accepted h | stepped h =>
    refine hrest h fun bytes a result hmem => ?_
    simp only [List.mem_cons, List.not_mem_nil, Event.sendPdu.injEq, reduceCtorEq, or_false] at hmem
    rw [hmem.2.1]
    exact h.levelSupported
  | auth3 h _ _ _ _ hauth =>
    refine hrest h fun bytes a result hmem => ?_
    simp only [List.mem_cons, List.not_mem_nil, Event.sendPdu.injEq, reduceCtorEq, or_false,
      false_or] at hmem
    rcases hmem with ⟨-, rfl, -⟩ | ⟨-, rfl, -⟩
    · exact h.levelSupported
    · exact fun b hb => Option.some.inj hb ▸ hauth.level

variable [RpcTransport T]

/-- A bind, also of contexts that cannot be encoded. -/
theorem bindWithContextsInner_sentSupported {w w' : World T A} {r : Result (RpcClient T A)}
    (hw : w.trace = []) (h : (bindWithContextsInner proposed target).exec w = (r, w')) :
    SentSupported w'.trace := by
  by_cases hp : ∀ c ∈ proposed, c.Counted
  · obtain ⟨done, hhandshake, -⟩ := bindWithContextsInner_handshake hp hw h
    exact hhandshake.sentSupported
  · -- the client panics on them before it has sent anything
    have hne : proposed ≠ [] := by
      rintro rfl
      exact hp fun _ hc => absurd hc List.not_mem_nil
    have hnone : sent w.trace = [] := by rw [hw]; rfl
    obtain ⟨_, -, -, hsent⟩ | ⟨token, w₁, -, ⟨_, -, -, hsent⟩ | ⟨_, _, hbytes, -⟩⟩ :=
      bindWithContextsInner_sent hnone h hne
    · exact .of_sent_eq_nil hsent
    · exact .of_sent_eq_nil hsent
    · rw [bindBytes, BindPdu.withContexts, PresentationContextList.encode_of_not_counted hp] at hbytes
      cases hbytes

end

theorem SentSupported.by {a₀ : A} {trace : List (Event A)} (h : SentSupported trace)
    (hrecorded : ProviderUse.Recorded a₀ trace) : SentSupportedBy a₀ trace := by
  intro before e after htrace bytes authProvider result he
  obtain ⟨a, ha, hrun⟩ := hrecorded before e after htrace bytes authProvider result he
  refine ⟨a, ha, hrun, h bytes authProvider result ?_ a ha⟩
  rw [htrace, he]
  exact List.mem_append_right _ List.mem_cons_self

/-- **Levels.** Each PDU is handed over, and each stub is returned, while there is the
provider of the run, at a supported level. -/
theorem level_supported [DataRepresentation] [UuidCrate] [RpcTransport T] (transport : T)
    (proposed : List PresentationContext) (target : String) (contextId : UInt16) (authProvider : A) :
    (∀ r w, bindWithAuthProvider transport proposed target authProvider = (r, w) →
      SentSupportedBy authProvider w.trace) ∧
    ∀ c : RpcClient T A, ((∃ w, bindWithAuthProvider transport proposed target authProvider = (.ok c, w)) ∨
        c = newBoundWithAuth transport contextId authProvider) →
      ∀ uses c', Run UseStep c uses c' → SentSupportedBy authProvider c'.trace ∧
        ∀ fuel opnum requestStub stub c'',
          (RpcClient.callRaw fuel opnum requestStub).exec c' = (.ok stub, c'') →
          ∃ a, c''.authProvider = some a ∧
            Run ProviderUse.Step authProvider (ProviderUse.ofTrace c''.trace) a ∧
            (RpcAuthProvider.authLevel a).Supported := by
  have hrecorded := ProviderUse.recorded_invariant (T := T) authProvider
  have hstart : ProviderUse.Replayed (T := T) authProvider ⟨transport, some authProvider, []⟩ ∧
      ProviderUse.Recorded authProvider [] := ⟨⟨authProvider, rfl, .nil authProvider⟩, Everywhere.nil⟩
  constructor
  · intro r w h
    exact (bindWithContextsInner_sentSupported rfl h).by (hrecorded.bind hstart h).1.2
  intro c hc uses c' hrun
  have hclient : (ProviderUse.Replayed authProvider c.toWorld ∧ ProviderUse.Recorded authProvider c.trace) ∧
      SentSupported c.trace := by
    rcases hc with ⟨w, h⟩ | rfl
    · obtain ⟨-, rfl, -⟩ := bindWithContextsInner_ok rfl h
      exact ⟨(hrecorded.bind hstart h).1, bindWithContextsInner_sentSupported rfl h⟩
    · exact ⟨hstart, .of_sent_eq_nil rfl⟩
  have hsent : SentSupported c'.trace :=
    hrun.invariant (fun c => SentSupported c.trace) (fun _ _ _ hs hstep => hstep.sentSupported hs) hclient.2
  refine ⟨hsent.by (hrecorded.uses hrun hclient.1).2, fun fuel opnum requestStub stub c'' h => ?_⟩
  obtain ⟨⟨a, ha, hreplayed⟩, -⟩ := hrecorded.uses (hrun.concat (.callRaw h)) hclient.1
  obtain ⟨events, hspec, -⟩ := RpcClient.callRaw_spec h
  obtain ⟨hcan, -⟩ := hspec.ok stub rfl
  exact ⟨a, ha, hreplayed, hcan.2 a (hspec.extends_started.authProvider.symm.trans ha)⟩

end

section

open Standard

/-- A provider that answers a challenge with nothing, and has another level then. -/
structure RisingProvider where
  level : AuthLevel
  after : AuthLevel
  deriving DecidableEq

instance : RpcAuthProvider RisingProvider where
  mechanism _ := .ntlm
  authLevel a := a.level
  initContext a _ := (.ok [3], a)
  step a _ := (.ok [], { a with level := a.after })

/-- A bind ack with a challenge, and the answer to a call. -/
def risingTransport : MemoryTransport :=
  ⟨[challengingAck.encode.toOption.getD [], pdu .response 2 (responseBody [7])], []⟩

def risingBind (after : AuthLevel) :
    Result (RpcClient MemoryTransport RisingProvider) × World MemoryTransport RisingProvider :=
  bindWithAuthProvider risingTransport [ndr32Context] "" { level := .connect, after }

/-- The first call of the client, if the bind succeeds. -/
def risingCall (after : AuthLevel) :
    Option (Result (List UInt8) × RpcClient MemoryTransport RisingProvider) :=
  (risingBind after).1.toOption.map ((RpcClient.callRaw 1 7 [1]).exec ·)

/-- Whatever the level is after the step, if a call is made. -/
theorem exists_risingCall {after : AuthLevel} {r : Result (List UInt8)} {n : Nat}
    (h : (risingCall after).map (fun call => (call.1.toOption, (sent call.2.trace).length)) =
      some (r.toOption, n)) :
    ∃ c w r' c', risingBind after = (.ok c, w) ∧
      (RpcClient.callRaw 1 7 [1]).exec c = (r', c') ∧ r'.toOption = r.toOption ∧
      (sent c'.trace).length = n := by
  rw [risingCall] at h
  rcases hbind : risingBind after with ⟨e | c, w⟩
  · rw [hbind] at h
    cases h
  · rw [hbind] at h
    obtain ⟨hresult, hsent⟩ := Prod.mk.inj (Option.some.inj h)
    exact ⟨c, w, _, _, rfl, rfl, hresult, hsent⟩

/-- A level that is supported after the step, with a call that returns, and one that
is not. -/
theorem level_supported_rising :
    (∃ c w c', risingBind .none = (.ok c, w) ∧ (RpcClient.callRaw 1 7 [1]).exec c = (.ok [7], c') ∧
      SentSupportedBy ⟨.connect, .none⟩ c'.trace ∧ (sent c'.trace).length = 2 ∧
      ∃ a, c'.authProvider = some a ∧
        Run ProviderUse.Step ⟨.connect, .none⟩ (ProviderUse.ofTrace c'.trace) a ∧
        (RpcAuthProvider.authLevel a).Supported) ∧
    ∃ c w r c', risingBind .packetPrivacy = (.ok c, w) ∧
      (RpcClient.callRaw 1 7 [1]).exec c = (r, c') ∧ r.toOption = none ∧
      SentSupportedBy ⟨.connect, .packetPrivacy⟩ c'.trace ∧ (sent c'.trace).length = 1 := by
  constructor
  · obtain ⟨c, w, r, c', hbind, hcall, hr, hsent⟩ :=
      exists_risingCall (r := .ok [7]) (n := 2) (show (risingCall .none).map _ = _ by decide +kernel)
    cases r with
    | error e => cases hr
    | ok stub =>
      cases hr
      obtain ⟨-, huses⟩ := level_supported risingTransport [ndr32Context] "" 0
        (⟨.connect, .none⟩ : RisingProvider)
      obtain ⟨-, hok⟩ := huses c (.inl ⟨w, hbind⟩) [] c (.nil c)
      obtain ⟨hsupported, -⟩ := huses c (.inl ⟨w, hbind⟩) _ c' (.cons (.callRaw hcall) (.nil c'))
      exact ⟨c, w, c', hbind, hcall, hsupported, hsent, hok _ _ _ _ _ hcall⟩
  · obtain ⟨c, w, r, c', hbind, hcall, hr, hsent⟩ :=
      exists_risingCall (r := .error .fuel) (n := 1)
        (show (risingCall .packetPrivacy).map _ = _ by decide +kernel)
    obtain ⟨hsupported, -⟩ := (level_supported risingTransport [ndr32Context] "" 0
      (⟨.connect, .packetPrivacy⟩ : RisingProvider)).2 c (.inl ⟨w, hbind⟩) _ c'
        (.cons (.callRaw hcall) (.nil c'))
    exact ⟨c, w, r, c', hbind, hcall, hr, hsupported, hsent⟩

end

end Rpce
