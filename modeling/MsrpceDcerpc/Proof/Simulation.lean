import MsrpceDcerpc.Spec.Stream
import MsrpceDcerpc.Proof.Handshake
import MsrpceDcerpc.Proof.Calls

/-!
# Clients over related transports

A client over a transport that does what another does with the PDUs that a
client sends (`ClientTransportSim`) does what a client over that other does: in
a bind (`ClientTransportSim.bind`) and over any session
(`ClientTransportSim.session`), until the other has nothing to deliver. One
simulation is proved for each function of the client, from those of the
functions it calls.
-/

namespace Rpce

open Rust Eff

variable {T M A α β : Type} {R : T → M → Prop}

/-- Simulations of actions on worlds, until there is nothing to deliver. -/
abbrev SimWorld (R : T → M → Prop) (S : α → β → Prop) (x : Eff (Stop Error) (World T A) α)
    (y : Eff (Stop Error) (World M A) β) : Prop :=
  Sim (WorldSim R) (fun v => Starved v.trace) S x y

/-- The same for clients. -/
abbrev SimClient (R : T → M → Prop) (S : α → β → Prop) (x : Eff (Stop Error) (RpcClient T A) α)
    (y : Eff (Stop Error) (RpcClient M A) β) : Prop :=
  Sim (ClientSim R) (fun d => Starved d.trace) S x y

/-! ## The provider and the transport -/

theorem Starved.of_prefix {trace trace' : List (Event A)} (h : Starved trace)
    (hpre : trace <+: trace') : Starved trace' := by
  obtain ⟨e, he⟩ := h
  exact ⟨e, hpre.subset he⟩

namespace RpcClient

theorem sim_onWorld {S : α → β → Prop} {x : Eff (Stop Error) (World T A) α}
    {y : Eff (Stop Error) (World M A) β} (h : SimWorld R S x y) :
    SimClient R S (onWorld x) (onWorld y) :=
  .zoom h (fun _ _ h => h.toWorld) (fun _ _ _ _ h hw => ⟨hw, h.contextId, h.callId, h.maxXmitFrag⟩)
    fun _ _ hQ => hQ

theorem sim_nextCallId : SimClient (A := A) R Eq nextCallId nextCallId := by
  refine .bind .get fun c d h => .bind_eq (.modify fun c d h => ?_) fun _ => .pure h.callId
  exact ⟨h.toWorld, h.contextId, congrArg succCallId h.callId, h.maxXmitFrag⟩

theorem requestFragment_eq [UuidCrate] {c : RpcClient T A} {d : RpcClient M A} (h : ClientSim R c d)
    (opnum : UInt16) (allocHint : UInt32) (stubData : List UInt8) :
    requestFragment c opnum allocHint stubData = requestFragment d opnum allocHint stubData := by
  rw [requestFragment, requestFragment, h.contextId]

end RpcClient

section

variable [RpcAuthProvider A]

theorem sim_initContext (a : A) (target : String) :
    SimWorld R Eq (initContext a target) (initContext a target) := fun _ _ h =>
  .inr ⟨.refl _, h.transport, rfl, congrArg (· ++ [_]) h.trace⟩

theorem sim_stepProvider (a : A) (challenge : List UInt8) :
    SimWorld R Eq (stepProvider a challenge) (stepProvider a challenge) := fun _ _ h =>
  .inr ⟨.refl _, h.transport, rfl, congrArg (· ++ [_]) h.trace⟩

theorem sim_initAuth (target : String) :
    SimWorld (A := A) R Eq (initAuth target) (initAuth target) := by
  refine .bind .get fun w v h => ?_
  rw [h.authProvider]
  cases v.authProvider with
  | none => exact .pure rfl
  | some a => exact .bind_eq (sim_initContext a target) fun _ => .pure rfl

end

variable [RpcTransport T] [RpcTransport M] [DataRepresentation]

theorem sim_sendPdu (hT : ClientTransportSim R) {bytes : List UInt8} (hbytes : BuiltPdu bytes) :
    SimWorld (A := A) R Eq (sendPdu bytes) (sendPdu bytes) := by
  intro w v h
  obtain ⟨hresult, ht⟩ := hT.sendPdu hbytes h.transport
  refine .inr ⟨?_, ht, h.authProvider, ?_⟩
  · show SameResult Eq (mapErr (RpcTransport.sendPdu w.transport bytes).1 id) _
    rw [hresult]
    exact .refl _
  · show w.trace ++ [.sendPdu bytes w.authProvider (RpcTransport.sendPdu w.transport bytes).1] = _
    rw [hresult, h.authProvider, h.trace]
    rfl

theorem sim_recvPdu (hT : ClientTransportSim R) : SimWorld (A := A) R Eq recvPdu recvPdu := by
  intro w v h
  rcases hv : RpcTransport.recvPdu v.transport with ⟨e | bytes, m⟩
  · exact .inl ⟨_, _, exec_recvPdu hv, e, List.mem_append_right _ (List.mem_singleton_self _)⟩
  · obtain ⟨t, hw, ht⟩ := hT.recvPdu h.transport hv
    rw [exec_recvPdu hv, exec_recvPdu hw]
    exact .inr ⟨.refl _, ht, h.authProvider, congrArg (· ++ [_]) h.trace⟩

/-! ## Binding -/

variable [RpcAuthProvider A]

section Bind

theorem built_of_authenticatedPacket {ptype : PduType} {callId : UInt32} {pfcFlags : UInt8}
    {body token : List UInt8} {a : A} {packet : PduPacket}
    (h : authenticatedPacket ptype callId pfcFlags body a token = .ok packet) : packet.Built := by
  obtain ⟨-, -, h⟩ := bind_eq_ok.mp h
  obtain ⟨padLength, -, h⟩ := bind_eq_ok.mp h
  cases h
  exact ⟨rfl, rfl⟩

theorem built_of_bindPacket {callId : UInt32} {body : List UInt8} {token : Option (List UInt8)}
    {authProvider : Option A} {packet : PduPacket}
    (h : bindPacket callId body token authProvider = .ok packet) : packet.Built := by
  unfold bindPacket at h
  split at h
  · exact built_of_authenticatedPacket h
  · cases h
    exact ⟨rfl, rfl⟩

theorem sim_answerChallenge (hT : ClientTransportSim R) (callId : UInt32) (response : PduPacket) :
    SimWorld (A := A) R Eq (answerChallenge callId response) (answerChallenge callId response) := by
  refine .bind .get fun w v h => ?_
  rw [h.authProvider]
  cases v.authProvider with
  | none => exact .pure rfl
  | some a =>
    dsimp only
    by_cases hne : response.authValue = []
    · rw [if_pos hne, if_pos hne]
      exact .pure rfl
    rw [if_neg hne, if_neg hne]
    refine .bind_eq (sim_stepProvider a _) fun token => ?_
    by_cases hnil : token = []
    · rw [if_pos hnil, if_pos hnil]
      exact .pure rfl
    rw [if_neg hnil, if_neg hnil]
    refine .bind .get fun w v h => ?_
    rw [h.authProvider]
    cases v.authProvider with
    | none => exact .pure rfl
    | some a =>
      refine .lift_bind fun auth3 hauth3 => .lift_bind fun bytes hbytes => ?_
      exact sim_sendPdu hT ⟨auth3, built_of_authenticatedPacket hauth3, hbytes⟩

variable [UuidCrate]

theorem sim_bindAccepted (hT : ClientTransportSim R) (callId : UInt32) (proposed : List PresentationContext)
    (response : PduPacket) : SimWorld (A := A) R (ClientSim R) (bindAccepted callId proposed response)
      (bindAccepted callId proposed response) := by
  refine .bind_eq (.lift _) fun ack => .bind_eq (.lift _) fun accepted => ?_
  exact .bind_eq (sim_answerChallenge hT callId response) fun _ => .bind .get fun w v h =>
    .pure ⟨h, rfl, rfl, rfl⟩

theorem sim_bindWithContextsInner (hT : ClientTransportSim R) (proposed : List PresentationContext)
    (target : String) : SimWorld (A := A) R (ClientSim R) (bindWithContextsInner proposed target)
      (bindWithContextsInner proposed target) := by
  refine .bind_eq (.lift _) fun _ => .bind_eq (sim_initAuth target) fun token => ?_
  refine .bind_eq (.lift _) fun bind => .bind .get fun w v h => ?_
  rw [h.authProvider]
  refine .lift_bind fun packet hpacket => .lift_bind fun bytes hbytes => ?_
  refine .bind_eq (sim_sendPdu hT ⟨packet, built_of_bindPacket hpacket, hbytes⟩) fun _ => ?_
  refine .bind_eq (sim_recvPdu hT) fun answer => ?_
  refine .bind_eq (.lift _) fun response => .bind_eq (.lift _) fun _ => ?_
  split
  · exact sim_bindAccepted hT _ proposed response
  · exact .bind_eq (.lift _) fun nak => .throw _
  · exact .throw _

end Bind

/-! ## Calls -/

namespace RpcClient

theorem sim_recvLoop (hT : ClientTransportSim R) (callId : UInt32) (fuel : Nat) (responseStub : List UInt8)
    (sawFirst : Bool) : SimClient (A := A) R Eq (recvLoop callId fuel responseStub sawFirst)
      (recvLoop callId fuel responseStub sawFirst) := by
  induction fuel generalizing responseStub sawFirst with
  | zero => exact .throw _
  | succ fuel ih =>
    refine .bind_eq (sim_onWorld (sim_recvPdu hT)) fun bytes => .bind_eq (.lift _) fun packet => ?_
    have hverify : SimClient (A := A) R Eq (verifyResponsePacket bytes packet)
        (verifyResponsePacket bytes packet) := by
      refine .bind .get fun c d h => ?_
      rw [h.toWorld.authProvider]
      exact .lift _
    refine .bind_eq hverify fun _ => .bind_eq (.lift _) fun _ => ?_
    split
    · refine .bind_eq (.lift _) fun _ => .bind_eq (.lift _) fun response => ?_
      split
      · exact .pure rfl
      · exact ih _ _
    · exact .bind_eq (.lift _) fun fault => .throw _
    · exact .throw _

variable [UuidCrate]

theorem built_of_fromRequestWithFlags {callId : UInt32} {pfcFlags : UInt8} {request : RequestPdu}
    {packet : PduPacket} (h : PduPacket.fromRequestWithFlags callId pfcFlags request = .ok packet) :
    packet.Built := by
  obtain ⟨fragLength, -, h⟩ := bind_eq_ok.mp h
  cases h
  exact ⟨rfl, rfl⟩

theorem sim_sendFragment (hT : ClientTransportSim R) (callId : UInt32) (pfcFlags : UInt8)
    (request : RequestPdu) : SimClient (A := A) R Eq (sendFragment callId pfcFlags request)
      (sendFragment callId pfcFlags request) := by
  have hpacket : SimClient (A := A) R (fun p q => p = q ∧ p.Built)
      (requestPacket callId pfcFlags request) (requestPacket callId pfcFlags request) := by
    refine .bind .get fun c d h => ?_
    rw [h.toWorld.authProvider]
    exact .bind_eq (.lift _) fun _ => .lift_of fun _ h => ⟨rfl, built_of_fromRequestWithFlags h⟩
  refine .bind hpacket ?_
  rintro packet _ ⟨rfl, hpacket⟩
  exact .lift_bind fun bytes hbytes => sim_onWorld (sim_sendPdu hT ⟨packet, hpacket, hbytes⟩)

theorem sim_sendLoop (hT : ClientTransportSim R) (callId : UInt32) (opnum : UInt16)
    (requestStub : List UInt8) (maxStubPerFrag fuel offset : Nat) :
    SimClient (A := A) R Eq (sendLoop callId opnum requestStub maxStubPerFrag fuel offset)
      (sendLoop callId opnum requestStub maxStubPerFrag fuel offset) := by
  induction fuel generalizing offset with
  | zero =>
    rw [sendLoop, sendLoop]
    split
    · exact .throw _
    · exact .pure rfl
  | succ fuel ih =>
    rw [sendLoop, sendLoop]
    split
    · refine .bind_eq (.lift _) fun stubData => .bind .get fun c d h => ?_
      rw [requestFragment_eq h]
      exact .bind_eq (sim_sendFragment hT _ _ _) fun _ => ih _
    · exact .pure rfl

theorem sim_sendRequestFragments (hT : ClientTransportSim R) (callId : UInt32) (opnum : UInt16)
    (requestStub : List UInt8) :
    SimClient (A := A) R Eq (sendRequestFragments callId opnum requestStub)
      (sendRequestFragments callId opnum requestStub) := by
  refine .bind .get fun c d h => ?_
  rw [h.maxXmitFrag]
  refine .bind_eq (.lift _) fun maxStubPerFrag => .bind_eq (.lift _) fun _ => ?_
  split
  · rw [requestFragment_eq h]
    exact sim_sendFragment hT _ _ _
  · exact sim_sendLoop hT _ _ _ _ _ _

theorem sim_callRaw (hT : ClientTransportSim R) (fuel : Nat) (opnum : UInt16) (requestStub : List UInt8) :
    SimClient (A := A) R Eq (callRaw fuel opnum requestStub) (callRaw fuel opnum requestStub) := by
  refine .bind_eq (.modify fun c d h => ⟨⟨h.toWorld.transport, h.toWorld.authProvider,
    congrArg (· ++ [_]) h.toWorld.trace⟩, h.contextId, h.callId, h.maxXmitFrag⟩) fun _ => ?_
  refine .bind_eq sim_nextCallId fun callId => ?_
  exact .bind_eq (sim_sendRequestFragments hT callId opnum requestStub) fun _ =>
    sim_recvLoop hT callId fuel [] false

end RpcClient

/-! ## Runs -/

variable [UuidCrate]

theorem Session.trace_prefix {c c' : RpcClient T A} {calls : List (Call A)}
    (h : Session c calls c') : c.trace <+: c'.trace := by
  refine h.invariant (fun s => c.trace <+: s.trace) (fun s call s' hs hstep => ?_) List.prefix_rfl
  rw [hstep.trace]
  exact hs.trans (List.prefix_append _ _)

namespace ClientTransportSim

omit [UuidCrate] [RpcTransport T] in
/-- A transport does what it does. -/
theorem refl : ClientTransportSim (Eq : M → M → Prop) where
  sendPdu _ h := h ▸ ⟨rfl, rfl⟩
  recvPdu h hm := ⟨_, h ▸ hm, rfl⟩

/-- A bind does the same over both transports. -/
theorem bind (hT : ClientTransportSim R) {t : T} {m : M} (h : R t m) (proposed : List PresentationContext)
    (target : String) (authProvider : Option A)
    (hlast : ¬ Starved ((bindWithContextsInner proposed target).exec
      { transport := m, authProvider, trace := [] }).2.trace) :
    SameResult (ClientSim R)
        ((bindWithContextsInner proposed target).exec { transport := t, authProvider, trace := [] }).1
        ((bindWithContextsInner proposed target).exec { transport := m, authProvider, trace := [] }).1 ∧
      WorldSim R
        ((bindWithContextsInner proposed target).exec { transport := t, authProvider, trace := [] }).2
        ((bindWithContextsInner proposed target).exec { transport := m, authProvider, trace := [] }).2 := by
  rcases sim_bindWithContextsInner hT proposed target { transport := t, authProvider, trace := [] }
    { transport := m, authProvider, trace := [] } ⟨h, rfl, rfl⟩ with ⟨e, v, hexec, hstarved⟩ | hsame
  · rw [hexec] at hlast
    exact absurd hstarved hlast
  · exact hsame

/-- Every call of a session has the same result, and does the same. -/
theorem session (hT : ClientTransportSim R) {c : RpcClient T A} {d d' : RpcClient M A}
    {calls : List (Call A)} (h : ClientSim R c d) (hsession : Session d calls d')
    (hlast : ¬ Starved d'.trace) : ∃ c', Session c calls c' ∧ ClientSim R c' d' := by
  induction hsession generalizing c with
  | nil => exact ⟨c, .nil c, h⟩
  | @cons d d₁ d' call calls step rest ih =>
    obtain ⟨fuel, hexec⟩ := step.exec
    rcases RpcClient.sim_callRaw hT fuel call.opnum call.requestStub c d h with
      ⟨e, _, hstarved, hQ⟩ | ⟨hresult, hsim⟩
    · obtain ⟨-, rfl⟩ := Prod.mk.inj (hstarved.symm.trans hexec)
      exact absurd (hQ.of_prefix (Session.trace_prefix rest)) hlast
    · rw [hexec] at hresult hsim
      obtain ⟨c', hrest, hsim'⟩ := ih hsim hlast
      refine ⟨c', .cons ⟨⟨fuel, Prod.ext hresult.eq rfl⟩, step.returns, ?_, ?_⟩ hrest, hsim'⟩
      · rw [step.callId, h.callId]
      · rw [hsim.toWorld.trace, step.trace, h.toWorld.trace]

end ClientTransportSim

namespace TransportSim

omit [UuidCrate] in
theorem clientTransportSim (hT : TransportSim R) : ClientTransportSim R where
  sendPdu _ h := hT.sendPdu _ h
  recvPdu h hm := hT.recvPdu h hm

/-- A bind does the same over both transports. -/
theorem bind (hT : TransportSim R) {t : T} {m : M} (h : R t m) (proposed : List PresentationContext)
    (target : String) (authProvider : Option A)
    (hlast : ¬ Starved ((bindWithContextsInner proposed target).exec
      { transport := m, authProvider, trace := [] }).2.trace) :
    SameResult (ClientSim R)
        ((bindWithContextsInner proposed target).exec { transport := t, authProvider, trace := [] }).1
        ((bindWithContextsInner proposed target).exec { transport := m, authProvider, trace := [] }).1 ∧
      WorldSim R
        ((bindWithContextsInner proposed target).exec { transport := t, authProvider, trace := [] }).2
        ((bindWithContextsInner proposed target).exec { transport := m, authProvider, trace := [] }).2 :=
  hT.clientTransportSim.bind h proposed target authProvider hlast

/-- Every call of a session has the same result, and does the same. -/
theorem session (hT : TransportSim R) {c : RpcClient T A} {d d' : RpcClient M A}
    {calls : List (Call A)} (h : ClientSim R c d) (hsession : Session d calls d')
    (hlast : ¬ Starved d'.trace) : ∃ c', Session c calls c' ∧ ClientSim R c' d' :=
  hT.clientTransportSim.session h hsession hlast

end TransportSim

end Rpce
