import MsrpceDcerpc.Spec.Standard
import MsrpceDcerpc.Proof.Calls

/-!
# What a bind agreed on

Three things a bind ack settles, and what the client makes of each:

* the size of fragments: the client takes `max_xmit_frag` of the ack as the
  limit of what it sends, where `max_recv_frag` is what the server can receive
  (`Bound.frames_fit_iff`);
* the transfer syntax: `accepted_context` pairs the first acceptance with the
  proposed context at its place, and does not look whether that context has
  the syntax (`acceptedContext_proposedBy_iff`);
* how stubs are to be written: `call` writes NDR32, whatever syntax was
  accepted (`Bound.stubs_in_syntax_iff`).
-/

namespace Rpce

open Rust RpcClient

variable {T A : Type}

/-! ## The size of fragments -/

section Size

variable [DataRepresentation] [UuidCrate] [RpcAuthProvider A]

/-- The longest PDU a call sends is its first. -/
theorem RpcClient.CallSpec.frames_le_iff {c c' : RpcClient T A} {opnum : UInt16}
    {requestStub : List UInt8} {r : Result (List UInt8)} {events : List (Event A)}
    (h : CallSpec c c' opnum requestStub r events) (limit : Nat) :
    (∀ bytes ∈ sent events, bytes.length ≤ limit) ↔
      ¬ CanSend c ∨ min c.maxXmitFrag.toNat (24 + requestStub.length) ≤ limit := by
  by_cases hc : CanSend c
  · rw [or_iff_right (fun h => h hc)]
    constructor
    · intro hall
      obtain ⟨frame, frames, hframes, hlen⟩ :=
        exists_requestFrames_eq_cons c.callId c.contextId opnum requestStub hc.1
      have hprefix := h.sent_prefix
      rw [hframes] at hprefix
      rcases List.prefix_cons_iff.mp hprefix with hnil | ⟨rest, hcons, -⟩
      · exact absurd hc (h.sent_eq_nil.mp hnil)
      · rw [← hlen]
        exact hall frame (hcons ▸ List.mem_cons_self)
    · intro hle bytes hb
      exact Nat.le_trans (length_of_mem_requestFrames hc.1 (h.sent_prefix.subset hb)) hle
  · rw [h.sent_eq_nil.mpr hc]
    exact iff_of_true (fun _ hb => absurd hb List.not_mem_nil) (.inl hc)

variable [RpcTransport T]

/-- The requests of a client fit into what the server can receive exactly if
nothing is sent at all, or each is no longer than that although it may be as
long as the server's own fragments. -/
theorem Bound.frames_fit_iff {proposed : List PresentationContext} {c c' : RpcClient T A}
    {response : PduPacket} {ack : BindAckPdu} {calls : List (Call A)} (hbound : Bound proposed c)
    (hack : AckedBy c.trace response ack) (h : Session c calls c') :
    (∀ call ∈ calls, ∀ bytes ∈ sent call.events, bytes.length ≤ ack.maxRecvFrag.toNat) ↔
      ∀ call ∈ calls, ¬ LevelSupported c.authProvider ∨ ack.maxXmitFrag.toNat ≤ 24 ∨
        min ack.maxXmitFrag.toNat (24 + call.requestStub.length) ≤ ack.maxRecvFrag.toNat := by
  obtain ⟨-, response', ack', _, hack', -, -, -, hmax⟩ := hbound.acked
  obtain ⟨-, rfl⟩ := hack.unique hack'
  refine forall₂_congr fun call hmem => ?_
  obtain ⟨i, hi⟩ := List.getElem?_of_mem hmem
  obtain ⟨s, s', -, hstep, -, hsmax, hauth, -⟩ := Session.step_at h hi
  rw [hstep.spec.frames_le_iff, hsmax, hmax, CanSend, hauth, hsmax, hmax,
    Classical.not_and_iff_not_or_not, Nat.not_lt]
  tauto

end Size

section

open Standard

/-- A server that can receive 32 bytes and sends 100. -/
def narrowServer : MemoryTransport := ⟨[pdu .bindAck 1 (acceptanceBody 100 32 .ndr32)], []⟩

def narrowClient : RpcClient MemoryTransport FixedProvider :=
  boundTo narrowServer [ndr32Context]

theorem bound_narrowClient : Bound [ndr32Context] narrowClient :=
  .bindWithContexts (w := narrowClient.toWorld) narrowServer rfl

theorem ackedBy_narrowClient : AckedBy narrowClient.trace
    (packet .bindAck 1 (acceptanceBody 100 32 .ndr32)) (acceptance 100 32 .ndr32) :=
  ⟨⟨_, rfl, by decide +kernel⟩, rfl, rfl, by decide +kernel⟩

/-- A request with 8 bytes of stub fits. -/
theorem narrowClient_frames_fit : ∃ (call : Call FixedProvider)
    (c' : RpcClient MemoryTransport FixedProvider), Session narrowClient [call] c' ∧
    call.requestStub = List.replicate 8 0 ∧
    ∀ call' ∈ [call], ∀ bytes ∈ sent call'.events, bytes.length ≤ 32 := by
  obtain ⟨events, hstep⟩ := CallStep.of_exec (c := narrowClient) 1 0 (List.replicate 8 0)
    (r := .error (.err (.transport "no queued PDU available"))) (Prod.ext (by decide +kernel) rfl)
    (by decide)
  have hrun : Session narrowClient _ _ := .cons hstep (.nil _)
  refine ⟨_, _, hrun, rfl,
    (Bound.frames_fit_iff bound_narrowClient ackedBy_narrowClient hrun).mpr fun call hmem => ?_⟩
  rw [List.mem_singleton.mp hmem]
  exact .inr (.inr (show min 100 (24 + 8) ≤ 32 by decide))

/-- With 20 bytes of stub the client sends a PDU that its server cannot
receive. -/
theorem narrowClient_frame_exceeds : ∃ (call : Call FixedProvider)
    (c' : RpcClient MemoryTransport FixedProvider), Session narrowClient [call] c' ∧
    call.requestStub = List.replicate 20 0 ∧ Bound [ndr32Context] narrowClient ∧
    AckedBy narrowClient.trace (packet .bindAck 1 (acceptanceBody 100 32 .ndr32))
      (acceptance 100 32 .ndr32) ∧
    ¬ ∀ bytes ∈ sent call.events, bytes.length ≤ (acceptance 100 32 .ndr32).maxRecvFrag.toNat := by
  obtain ⟨events, hstep⟩ := CallStep.of_exec (c := narrowClient) 1 0 (List.replicate 20 0)
    (r := .error (.err (.transport "no queued PDU available"))) (Prod.ext (by decide +kernel) rfl)
    (by decide)
  refine ⟨_, _, .cons hstep (.nil _), rfl, bound_narrowClient, ackedBy_narrowClient, ?_⟩
  have hlevel : LevelSupported narrowClient.authProvider := fun a ha => (by cases ha)
  have hsend : CanSend narrowClient := ⟨by decide +kernel, hlevel⟩
  rw [hstep.spec.frames_le_iff, or_iff_right (fun h => h hsend)]
  show ¬ min narrowClient.maxXmitFrag.toNat (24 + 20) ≤ 32
  decide +kernel

end

/-! ## The transfer syntax -/

section Syntax

variable [UuidCrate]

/-- Some context of `proposed` has the accepted id and lists the accepted
syntax. -/
def AcceptedContext.ProposedBy (a : AcceptedContext) (proposed : List PresentationContext) : Prop :=
  ∃ c ∈ proposed, c.contextId = a.contextId ∧ a.transferSyntax ∈ c.transferSyntaxes

instance (a : AcceptedContext) (proposed : List PresentationContext) :
    Decidable (a.ProposedBy proposed) := inferInstanceAs (Decidable (∃ c ∈ proposed, _ ∧ _))

/-- The first acceptance of the ack repeats a syntax that was proposed with the
id of the context at its place. -/
def BindAckPdu.Repeats (ack : BindAckPdu) (proposed : List PresentationContext) : Prop :=
  ∀ i r c, BindAckPdu.FirstAcceptance ack.results i r → proposed[i]? = some c →
    ∃ c' ∈ proposed, c'.contextId = c.contextId ∧ r.transferSyntax ∈ c'.transferSyntaxes

theorem BindAckPdu.FirstAcceptance.unique {results : List PresentationResult} {i j : Nat}
    {r s : PresentationResult} (h : FirstAcceptance results i r) (h' : FirstAcceptance results j s) :
    i = j ∧ r = s := by
  have hij : i = j := by
    rcases Nat.lt_trichotomy i j with hlt | rfl | hlt
    · exact absurd h.accepts (h'.first i r hlt h.get)
    · rfl
    · exact absurd h'.accepts (h.first j s hlt h'.get)
  subst hij
  exact ⟨rfl, Option.some.inj (h.get.symm.trans h'.get)⟩

theorem BindAckPdu.repeats_iff {ack : BindAckPdu} {proposed : List PresentationContext}
    {a : AcceptedContext} (h : ack.acceptedContext proposed = .ok a) :
    ack.Repeats proposed ↔ a.ProposedBy proposed := by
  obtain ⟨i, r, c, hfirst, hget, rfl⟩ := acceptedContext_eq_ok.mp h
  constructor
  · intro hr
    exact hr i r c hfirst hget
  · intro hp j s c' hfirst' hget'
    obtain ⟨rfl, rfl⟩ := hfirst.unique hfirst'
    obtain rfl : c = c' := Option.some.inj (hget.symm.trans hget')
    exact hp

/-- The accepted syntax is a proposed one exactly if the server repeats one,
for the selection and for the binds that rest on it. -/
theorem acceptedContext_proposedBy_iff [DataRepresentation] [RpcTransport T] [RpcAuthProvider A]
    (proposed : List PresentationContext) (ack : BindAckPdu) :
    ((∀ a, ack.acceptedContext proposed = .ok a → a.ProposedBy proposed) ↔ ack.Repeats proposed) ∧
    ∀ (c : RpcClient T A) (response : PduPacket), Bound proposed c → AckedBy c.trace response ack →
      ∃ a, ack.acceptedContext proposed = .ok a ∧ c.contextId = a.contextId ∧
        (a.ProposedBy proposed ↔ ack.Repeats proposed) := by
  refine ⟨⟨fun h i r c hfirst hget => ?_, fun h a ha => (BindAckPdu.repeats_iff ha).mp h⟩, ?_⟩
  · exact h _ (BindAckPdu.acceptedContext_eq_ok.mpr ⟨i, r, c, hfirst, hget, rfl⟩)
  · intro c response hbound hack
    obtain ⟨-, _, _, a, hack', ha, hctx, -, -⟩ := hbound.acked
    obtain ⟨-, rfl⟩ := hack.unique hack'
    exact ⟨a, ha, hctx, (BindAckPdu.repeats_iff ha).symm⟩

end Syntax

section

open Standard

theorem acceptedContext_narrowClient : (acceptance 100 32 .ndr32).acceptedContext [ndr32Context] =
    .ok { contextId := 0, transferSyntax := TransferSyntax.ndr32.syntaxId } := by decide +kernel

/-- A client whose server accepted a syntax that was proposed. -/
theorem narrowClient_proposedBy : ∃ a,
    (acceptance 100 32 .ndr32).acceptedContext [ndr32Context] = .ok a ∧
    narrowClient.contextId = a.contextId ∧ a.ProposedBy [ndr32Context] := by
  obtain ⟨a, ha, hctx, hiff⟩ := (acceptedContext_proposedBy_iff [ndr32Context]
    (acceptance 100 32 .ndr32)).2 narrowClient _ bound_narrowClient ackedBy_narrowClient
  refine ⟨a, ha, hctx, hiff.mpr ((BindAckPdu.repeats_iff ha).mpr ?_)⟩
  rw [Except.ok.inj (ha.symm.trans acceptedContext_narrowClient)]
  decide +kernel

/-- A server that accepts the first context with NDR64. -/
def ndr64Server : MemoryTransport := ⟨[pdu .bindAck 1 (acceptanceBody 4280 4280 .ndr64)], []⟩

/-- The client of a server that accepts a syntax which was not proposed. -/
theorem acceptedContext_not_proposedBy :
    let c := boundTo ndr64Server [ndr32Context]
    Bound [ndr32Context] c ∧
      AckedBy c.trace (packet .bindAck 1 (acceptanceBody 4280 4280 .ndr64))
        (acceptance 4280 4280 .ndr64) ∧
      (acceptance 4280 4280 .ndr64).acceptedContext [ndr32Context] =
        .ok { contextId := 0, transferSyntax := TransferSyntax.ndr64.syntaxId } ∧
      ¬ AcceptedContext.ProposedBy
        { contextId := 0, transferSyntax := TransferSyntax.ndr64.syntaxId } [ndr32Context] :=
  ⟨.bindWithContexts (w := (boundTo ndr64Server [ndr32Context]).toWorld) ndr64Server rfl,
    ⟨⟨_, rfl, by decide +kernel⟩, rfl, rfl, by decide +kernel⟩, by decide +kernel, by decide +kernel⟩

end

/-! ## The stubs of typed calls -/

section Typed

variable [DataRepresentation] [UuidCrate] [RpcTransport T] [RpcAuthProvider A]

/-- What a typed call does: nothing if its value has no NDR32, and otherwise
the call with the NDR32 of its value as the stub. -/
theorem RpcClient.call_exec {Req Resp : Type} [NdrSerialize Req] [NdrDeserialize Resp] {fuel : Nat}
    {opnum : UInt16} {request : Req} {c c' : RpcClient T A} {r : Result Resp}
    (h : (call fuel opnum request).exec c = (r, c')) :
    c' = match NdrSerialize.serialize .ndr32 request with
      | .error _ => c
      | .ok stub => ((callRaw fuel opnum stub).exec c).2 := by
  unfold call at h
  refine (congrArg Prod.snd h).symm.trans ?_
  cases h32 : NdrSerialize.serialize .ndr32 request with
  | error e => rw [Eff.exec_lift_bind_of_error (x := mapErr _ _) (by rw [Ndr.new, h32]; rfl)]
  | ok stub =>
    rw [Eff.exec_lift_bind_of_ok (x := mapErr _ _) (by rw [Ndr.new, h32]; rfl), Eff.exec_bind]
    dsimp only
    rcases (callRaw fuel opnum stub).exec c with ⟨e | r, c'⟩ <;> rfl

/-- A typed call hands the NDR32 of its value to `call_raw`, if it has one. -/
theorem RpcClient.call_stubs {Req Resp : Type} [NdrSerialize Req] [NdrDeserialize Resp] {fuel : Nat}
    {opnum : UInt16} {request : Req} {c c' : RpcClient T A} {r : Result Resp}
    (h : (call fuel opnum request).exec c = (r, c')) :
    ∃ events, c'.trace = c.trace ++ events ∧
      stubs events = (NdrSerialize.serialize .ndr32 request).toOption.toList := by
  have hstate := call_exec h
  cases h32 : NdrSerialize.serialize .ndr32 request with
  | error e =>
    rw [h32] at hstate
    exact ⟨[], by rw [hstate, List.append_nil], rfl⟩
  | ok stub =>
    rw [h32] at hstate
    obtain ⟨events, hspec, -⟩ := callRaw_spec (Prod.ext rfl hstate.symm :
      (callRaw fuel opnum stub).exec c = (_, c'))
    refine ⟨.callRaw opnum stub :: events, ?_, congrArg (stub :: ·) hspec.stubs_eq_nil⟩
    rw [hspec.extends_started.trace]
    exact (List.append_cons ..).symm

/-- The stubs of typed calls are in the accepted syntax exactly if that is
NDR32, or a value has no NDR32, or its NDR64 is the same. -/
theorem Bound.stubs_in_syntax_iff {Req Resp : Type} [NdrSerialize Req] [NdrDeserialize Resp]
    {proposed : List PresentationContext} {c c' c'' : RpcClient T A} {response : PduPacket}
    {ack : BindAckPdu} {a : AcceptedContext} {calls : List (Call A)} (hbound : Bound proposed c)
    (hack : AckedBy c.trace response ack) (ha : ack.acceptedContext proposed = .ok a)
    (hbuilt : ∀ p ∈ proposed, ∃ syntaxes : List TransferSyntax,
      p.transferSyntaxes = syntaxes.map TransferSyntax.syntaxId)
    (hproposed : a.ProposedBy proposed) (hrun : Session c calls c') (fuel : Nat) (opnum : UInt16)
    (request : Req) {r : Result Resp} (hcall : (call fuel opnum request).exec c' = (r, c'')) :
    ∃ (s : TransferSyntax) (events : List (Event A)), a.transferSyntax = s.syntaxId ∧
      c'.contextId = a.contextId ∧ c''.trace = c'.trace ++ events ∧
      ((∀ stub ∈ stubs events, NdrSerialize.serialize s.asNdrSyntax request = .ok stub) ↔
        s = .ndr32 ∨ (∃ e, NdrSerialize.serialize .ndr32 request = .error e) ∨
          NdrSerialize.serialize .ndr64 request = NdrSerialize.serialize .ndr32 request) := by
  have hctx : c'.contextId = a.contextId := by
    obtain ⟨-, _, _, a', hack', ha', hctx, -, -⟩ := hbound.acked
    obtain ⟨-, rfl⟩ := hack.unique hack'
    rw [(Session.kept hrun).1, hctx, Except.ok.inj (ha.symm.trans ha')]
  obtain ⟨p, hp, -, hlists⟩ := hproposed
  obtain ⟨syntaxes, hsyntaxes⟩ := hbuilt p hp
  rw [hsyntaxes] at hlists
  obtain ⟨s, -, hs⟩ := List.mem_map.mp hlists
  obtain ⟨events, htrace, hstubs⟩ := call_stubs hcall
  refine ⟨s, events, hs.symm, hctx, htrace, ?_⟩
  rw [hstubs]
  cases h32 : NdrSerialize.serialize .ndr32 request with
  | error e =>
    exact iff_of_true (fun stub hstub => absurd hstub List.not_mem_nil) (.inr (.inl ⟨e, rfl⟩))
  | ok stub =>
    show (∀ stub' ∈ [stub], _) ↔ _
    rw [List.forall_mem_singleton]
    cases s with
    | ndr32 => exact iff_of_true h32 (.inl rfl)
    | ndr64 => simp only [TransferSyntax.asNdrSyntax, reduceCtorEq, exists_false, false_or]

end Typed

section

open Standard

/-- A client that negotiated NDR32 writes NDR32. -/
theorem narrowClient_stub_in_syntax : ∃ (c' : RpcClient MemoryTransport FixedProvider)
    (r : Result Pointer) (events : List (Event FixedProvider)),
    (call 1 0 (⟨7⟩ : Pointer)).exec narrowClient = (r, c') ∧ c'.trace = narrowClient.trace ++ events ∧
    ∀ stub ∈ stubs events, NdrSerialize.serialize .ndr32 (⟨7⟩ : Pointer) = .ok stub := by
  rcases hcall : (call 1 0 (⟨7⟩ : Pointer) : Eff _ _ Pointer).exec narrowClient with ⟨r, c'⟩
  have hbuilt : ∀ p ∈ [ndr32Context], ∃ syntaxes : List TransferSyntax,
      p.transferSyntaxes = syntaxes.map TransferSyntax.syntaxId :=
    fun p hp => ⟨[.ndr32], by rw [List.mem_singleton.mp hp]; rfl⟩
  obtain ⟨s, events, hs, -, htrace, hiff⟩ := Bound.stubs_in_syntax_iff bound_narrowClient
    ackedBy_narrowClient acceptedContext_narrowClient hbuilt (by decide +kernel) (.nil _) 1 0 _ hcall
  obtain rfl : .ndr32 = s := TransferSyntax.syntaxId_injective hs
  exact ⟨c', r, events, rfl, htrace, hiff.mpr (.inl rfl)⟩

/-- A client that negotiated NDR64. -/
def ndr64Client : RpcClient MemoryTransport FixedProvider := boundTo ndr64Server [ndr64Context]

theorem bound_ndr64Client : Bound [ndr64Context] ndr64Client :=
  .bindWithContexts (w := ndr64Client.toWorld) ndr64Server rfl

theorem ackedBy_ndr64Client : AckedBy ndr64Client.trace
    (packet .bindAck 1 (acceptanceBody 4280 4280 .ndr64)) (acceptance 4280 4280 .ndr64) :=
  ⟨⟨_, rfl, by decide +kernel⟩, rfl, rfl, by decide +kernel⟩

theorem acceptedContext_ndr64Client : (acceptance 4280 4280 .ndr64).acceptedContext [ndr64Context] =
    .ok { contextId := 0, transferSyntax := TransferSyntax.ndr64.syntaxId } := by decide +kernel

/-- Zero is written in 4 bytes, where NDR64 has 8. -/
theorem ndr64Client_stub_in_ndr32 : ∃ (c' : RpcClient MemoryTransport FixedProvider)
    (r : Result Pointer) (events : List (Event FixedProvider)),
    Bound [ndr64Context] ndr64Client ∧
    AckedBy ndr64Client.trace (packet .bindAck 1 (acceptanceBody 4280 4280 .ndr64))
      (acceptance 4280 4280 .ndr64) ∧
    (acceptance 4280 4280 .ndr64).acceptedContext [ndr64Context] =
      .ok { contextId := 0, transferSyntax := TransferSyntax.ndr64.syntaxId } ∧
    (call 1 0 (⟨0⟩ : Pointer)).exec ndr64Client = (r, c') ∧ c'.trace = ndr64Client.trace ++ events ∧
    ¬ ∀ stub ∈ stubs events, NdrSerialize.serialize .ndr64 (⟨0⟩ : Pointer) = .ok stub := by
  rcases hcall : (call 1 0 (⟨0⟩ : Pointer) : Eff _ _ Pointer).exec ndr64Client with ⟨r, c'⟩
  obtain ⟨events, htrace, hstubs⟩ := call_stubs hcall
  refine ⟨c', r, events, bound_ndr64Client, ackedBy_ndr64Client, acceptedContext_ndr64Client, rfl,
    htrace, ?_⟩
  rw [hstubs]
  decide +kernel

end

end Rpce
