import MsrpceDcerpc.Spec.Standard
import MsrpceDcerpc.Proof.Receive
import MsrpceDcerpc.Proof.Handshake

/-!
# Calls

What one call does (`callRaw_spec`): it sends a prefix of the frames of its
request, then reads, and returns a stub only for the fragments of a response
to its own call id. `CallStep` of a session is that (`CallStep.spec`), and one
result for each call (`CallStep.deterministic`).

The call ids of a session count through the numbers from 1 to 2^32 - 1
(`Session.callId_eq`), so that 2^32 - 1 calls in a row have different ones.
-/

namespace Rpce

open Rust Endian Segment Eff

variable {T A : Type}

namespace RpcClient

section

variable [DataRepresentation] [UuidCrate] [RpcAuthProvider A]

/-- The client that has taken a call id for a call. -/
def started (c : RpcClient T A) (opnum : UInt16) (requestStub : List UInt8) : RpcClient T A :=
  { c with
    trace := c.trace ++ [.callRaw opnum requestStub]
    callId := succCallId c.callId }

/-- The clients whose requests can be sent: there is room for a byte of the
stub, and the level of the provider is supported. -/
def CanSend (c : RpcClient T A) : Prop :=
  24 < c.maxXmitFrag.toNat ∧ LevelSupported c.authProvider

/-- What a call does. -/
structure CallSpec (c c' : RpcClient T A) (opnum : UInt16) (requestStub : List UInt8)
    (result : Result (List UInt8)) (events : List (Event A)) : Prop where
  extends_started : Extends (started c opnum requestStub) c' events
  stubs_eq_nil : stubs events = []
  sent_prefix : sent events <+: requestFrames c.callId c.contextId opnum requestStub c.maxXmitFrag
  sent_eq_nil : sent events = [] ↔ ¬ CanSend c
  ok : ∀ stub, result = .ok stub → CanSend c ∧
    sent events = requestFrames c.callId c.contextId opnum requestStub c.maxXmitFrag ∧
    Response c.authProvider c.callId false (received events) stub
  fault : ∀ bytes ∈ received events, ∀ packet fault, PduPacket.decode bytes = .ok packet →
    packet.header.callId = c.callId → packet.header.ptype = .fault →
    FaultPdu.decode packet.body = .ok fault → result = .error (.err (.fault fault.status))

theorem CallSpec.of_not_canSend {c : RpcClient T A} {opnum : UInt16} {requestStub : List UInt8}
    (hc : ¬ CanSend c) (e : Error) :
    CallSpec c (started c opnum requestStub) opnum requestStub (.error (.err e)) [] where
  extends_started := Extends.refl _
  stubs_eq_nil := rfl
  sent_prefix := List.nil_prefix
  sent_eq_nil := iff_of_true rfl hc
  ok _ h := by cases h
  fault _ hb := absurd hb List.not_mem_nil

variable [RpcTransport T]

theorem callRaw_exec (fuel : Nat) (opnum : UInt16) (requestStub : List UInt8) (c : RpcClient T A) :
    (callRaw fuel opnum requestStub).exec c =
      (sendRequestFragments c.callId opnum requestStub >>= fun _ =>
        recvResponseFragments fuel c.callId).exec (started c opnum requestStub) := rfl

theorem callRaw_exec_of_canSend (fuel : Nat) (opnum : UInt16) (requestStub : List UInt8)
    {c : RpcClient T A} (hc : CanSend c) :
    (callRaw fuel opnum requestStub).exec c =
      (sendFrames (requestFrames c.callId c.contextId opnum requestStub c.maxXmitFrag) >>= fun _ =>
        recvResponseFragments fuel c.callId).exec (started c opnum requestStub) := by
  have hsend : (sendRequestFragments c.callId opnum requestStub).exec (started c opnum requestStub) =
      (sendFrames (requestFrames c.callId c.contextId opnum requestStub c.maxXmitFrag)).exec
        (started c opnum requestStub) := sendRequestFragments_exec _ _ _ hc.2 hc.1
  rw [callRaw_exec, exec_bind, exec_bind, hsend]

/-- A client that cannot send a request ends the call with an error. -/
theorem callRaw_exec_of_not_canSend (fuel : Nat) (opnum : UInt16) (requestStub : List UInt8)
    {c : RpcClient T A} (hc : ¬ CanSend c) :
    ∃ e, (callRaw fuel opnum requestStub).exec c = (.error (.err e), started c opnum requestStub) := by
  have hc' : c.maxXmitFrag.toNat ≤ 24 ∨ ¬ LevelSupported c.authProvider :=
    Classical.or_iff_not_imp_left.mpr fun hx hl => hc ⟨Nat.lt_of_not_le hx, hl⟩
  obtain ⟨e, he⟩ := sendRequestFragments_exec_error (c := started c opnum requestStub) c.callId
    opnum requestStub hc'
  exact ⟨e, by rw [callRaw_exec, exec_bind_of_error he]⟩

section Spec

variable {c c₁ c' : RpcClient T A} {opnum : UInt16} {requestStub : List UInt8}

/-- A transport that refused a fragment ends the call. -/
theorem CallSpec.of_refused (hc : CanSend c) {e : Error}
    (h : (sendFrames (requestFrames c.callId c.contextId opnum requestStub c.maxXmitFrag)).exec
      (started c opnum requestStub) = (.error (.err e), c')) :
    ∃ events, CallSpec c c' opnum requestStub (.error (.err e)) events := by
  obtain ⟨events, hext, hrecv, hstubs, hprefix, hne, -⟩ := sendFrames_spec h
  have hframes := requestFrames_ne_nil c.callId c.contextId opnum requestStub hc.1
  refine ⟨events, hext, hstubs, hprefix, iff_of_false (fun h => hframes (hne h)) (fun h => h hc),
    fun stub h => (by cases h), fun bytes hb => ?_⟩
  rw [hrecv] at hb
  exact absurd hb List.not_mem_nil

/-- Once all fragments are sent the call is its receive loop. -/
theorem CallSpec.of_sent (hc : CanSend c) {fuel : Nat} {r : Result (List UInt8)}
    (h : (sendFrames (requestFrames c.callId c.contextId opnum requestStub c.maxXmitFrag)).exec
      (started c opnum requestStub) = (.ok (), c₁))
    (hloop : (recvResponseFragments fuel c.callId).exec c₁ = (r, c')) :
    ∃ events, CallSpec c c' opnum requestStub r events ∧
      (Returns r ∨ r = .error .fuel ∧ (received events).length = fuel) := by
  obtain ⟨events, hext, hrecv, hstubs, hprefix, hne, ⟨e, hr⟩ | ⟨-, hall⟩⟩ := sendFrames_spec h
  · cases hr
  obtain ⟨events', hext', hsent, hstubs', hreturns⟩ := recvLoop_kept hloop
  have hframes := requestFrames_ne_nil c.callId c.contextId opnum requestStub hc.1
  have hsent' : sent (events ++ events') = sent events := by
    rw [sent_append, hsent, List.append_nil]
  have hrecv' : received (events ++ events') = received events' := by
    rw [received_append, hrecv, List.nil_append]
  refine ⟨events ++ events', ⟨hext.trans hext', ?_, hsent' ▸ hprefix, ?_, ?_, ?_⟩, hrecv' ▸ hreturns⟩
  · rw [stubs_append, hstubs, hstubs', List.append_nil]
  · rw [hsent']
    exact iff_of_false (fun h => hframes (hne h)) (fun h => h hc)
  · rintro stub rfl
    obtain ⟨frames, t, rest, -, -, rfl, rfl, hresponse⟩ := recvLoop_ok hloop
    obtain rfl := (extends_afterReceive c₁ frames t).eq_of_trace hext'.trace
    rw [hsent', hrecv', received_receiveEvents]
    rw [hext.authProvider] at hresponse
    exact ⟨hc, hall, hresponse⟩
  · rw [hrecv']
    intro bytes hb packet fault hpacket hid htype hfault
    exact recvLoop_fault hloop hext'.trace hb (hext.authProvider ▸ hc.2) hpacket hid htype hfault

/-- A call does this, and returns unless it was delivered `fuel` PDUs. -/
theorem callRaw_spec {fuel : Nat} {r : Result (List UInt8)}
    (h : (callRaw fuel opnum requestStub).exec c = (r, c')) :
    ∃ events, CallSpec c c' opnum requestStub r events ∧
      (Returns r ∨ r = .error .fuel ∧ (received events).length = fuel) := by
  by_cases hc : CanSend c
  · rw [callRaw_exec_of_canSend _ _ _ hc, exec_bind] at h
    rcases hs : (sendFrames (requestFrames c.callId c.contextId opnum requestStub c.maxXmitFrag)).exec
      (started c opnum requestStub) with ⟨e | u, c₁⟩
    · rw [hs] at h
      cases h
      obtain ⟨_, -, -, -, -, -, ⟨e, he⟩ | ⟨he, -⟩⟩ := sendFrames_spec hs
      · cases he
        obtain ⟨events, hspec⟩ := CallSpec.of_refused hc hs
        exact ⟨events, hspec, .inl (.err _)⟩
      · cases he
    · rw [hs] at h
      exact CallSpec.of_sent hc hs h
  · obtain ⟨e, he⟩ := callRaw_exec_of_not_canSend fuel opnum requestStub hc
    rw [he] at h
    cases h
    exact ⟨[], CallSpec.of_not_canSend hc e, .inl (.err _)⟩

end Spec

/-- More rounds of the receive loop change nothing once a call has returned. -/
theorem callRaw_mono {fuel fuel' : Nat} {opnum : UInt16} {requestStub : List UInt8}
    {c c' : RpcClient T A} {r : Result (List UInt8)} (hle : fuel ≤ fuel')
    (h : (callRaw fuel opnum requestStub).exec c = (r, c')) (hr : r ≠ .error .fuel) :
    (callRaw fuel' opnum requestStub).exec c = (r, c') := by
  rw [callRaw_exec, exec_bind] at h ⊢
  rcases hs : (sendRequestFragments c.callId opnum requestStub).exec (started c opnum requestStub) with
    ⟨e | u, c₁⟩
  · rw [hs] at h
    exact h
  · rw [hs] at h
    exact recvLoop_mono hle h hr

end

end RpcClient

/-! ## Steps -/

section

variable [DataRepresentation] [UuidCrate] [RpcTransport T] [RpcAuthProvider A]

open RpcClient

namespace CallStep

variable {c c' c₁ c₂ : RpcClient T A} {call call₁ call₂ : Call A}

theorem spec (h : CallStep c call c') :
    CallSpec c c' call.opnum call.requestStub call.result call.events := by
  obtain ⟨fuel, hexec⟩ := h.exec
  obtain ⟨events, hspec, -⟩ := callRaw_spec hexec
  have htrace : c.trace ++ .callRaw call.opnum call.requestStub :: call.events =
      c.trace ++ .callRaw call.opnum call.requestStub :: events := by
    rw [← h.trace, hspec.extends_started.trace]
    exact (List.append_cons ..).symm
  rw [(List.cons.inj (List.append_cancel_left htrace)).2]
  exact hspec

/-- A run of `call_raw` that ended is a step. -/
theorem of_exec {r : Result (List UInt8)} (fuel : Nat) (opnum : UInt16) (requestStub : List UInt8)
    (h : (callRaw fuel opnum requestStub).exec c = (r, c')) (hr : r ≠ .error .fuel) :
    ∃ events, CallStep c ⟨opnum, requestStub, c.callId, r, events⟩ c' := by
  obtain ⟨events, hspec, -⟩ := callRaw_spec h
  refine ⟨events, ⟨fuel, h⟩, hr, rfl, ?_⟩
  rw [hspec.extends_started.trace]
  exact (List.append_cons ..).symm

/-- The call a client makes is determined by its arguments. -/
theorem deterministic (harg : (call₁.opnum, call₁.requestStub) = (call₂.opnum, call₂.requestStub))
    (h₁ : CallStep c call₁ c₁) (h₂ : CallStep c call₂ c₂) : call₁ = call₂ ∧ c₁ = c₂ := by
  obtain ⟨opnum, stub, id₁, r₁, events₁⟩ := call₁
  obtain ⟨_, _, id₂, r₂, events₂⟩ := call₂
  obtain ⟨rfl, rfl⟩ := Prod.mk.inj harg
  obtain ⟨fuel₁, hexec₁⟩ := h₁.exec
  obtain ⟨fuel₂, hexec₂⟩ := h₂.exec
  have hmax₁ := callRaw_mono (Nat.le_max_left fuel₁ fuel₂) hexec₁ h₁.returns
  have hmax₂ := callRaw_mono (Nat.le_max_right fuel₁ fuel₂) hexec₂ h₂.returns
  obtain ⟨rfl, rfl⟩ := Prod.mk.inj (hmax₁.symm.trans hmax₂)
  obtain rfl : id₁ = id₂ := h₁.callId.trans h₂.callId.symm
  obtain rfl : events₁ = events₂ :=
    (List.cons.inj (List.append_cancel_left (h₁.trace.symm.trans h₂.trace))).2
  exact ⟨rfl, rfl⟩

end CallStep

/-! ## Call ids -/

end

theorem callIdAfter_zero {id : UInt32} (h : id ≠ 0) : callIdAfter id 0 = id.toNat := by
  have hlt := id.toNat_lt
  have hpos : id.toNat ≠ 0 := fun h0 => h (UInt32.toNat_inj.mp h0)
  unfold callIdAfter
  omega

theorem succCallId_toNat {id : UInt32} (h : id ≠ 0) :
    (RpcClient.succCallId id).toNat = callIdAfter id 1 := by
  have hlt := id.toNat_lt
  have hpos : id.toNat ≠ 0 := fun h0 => h (UInt32.toNat_inj.mp h0)
  have hadd : (id + 1).toNat = (id.toNat + 1) % 2 ^ 32 := UInt32.toNat_add id 1
  have hle : id + 1 ≤ 1 ↔ (id + 1).toNat ≤ 1 := UInt32.le_iff_toNat_le
  have hmax : RpcClient.succCallId id = if id + 1 ≤ 1 then 1 else id + 1 := rfl
  rw [hmax, callIdAfter]
  split
  · rename_i h1
    rw [hle] at h1
    show 1 = _
    omega
  · rename_i h1
    rw [hle] at h1
    omega

theorem succCallId_ne_zero {id : UInt32} (h : id ≠ 0) : RpcClient.succCallId id ≠ 0 := by
  intro h0
  have hs := succCallId_toNat h
  rw [h0] at hs
  exact absurd hs (Nat.succ_ne_zero _).symm

theorem callIdAfter_succ {id : UInt32} (h : id ≠ 0) (n : Nat) :
    callIdAfter (RpcClient.succCallId id) n = callIdAfter id (n + 1) := by
  have hlt := id.toNat_lt
  have hpos : id.toNat ≠ 0 := fun h0 => h (UInt32.toNat_inj.mp h0)
  rw [callIdAfter, succCallId_toNat h]
  unfold callIdAfter
  omega

/-- Call ids come back only after `2 ^ 32 - 1` calls. -/
theorem callIdAfter_ne {start : UInt32} {i j : Nat} (hij : i < j) (hj : j < i + (2 ^ 32 - 1)) :
    callIdAfter start i ≠ callIdAfter start j := by
  unfold callIdAfter
  omega

section

variable [DataRepresentation] [UuidCrate] [RpcTransport T] [RpcAuthProvider A]

theorem Constructed.callId_ne_zero {c : RpcClient T A} (h : Constructed c) : c.callId ≠ 0 := by
  induction h with
  | bound h =>
    obtain ⟨-, _, _, _, -, -, -, hid, -⟩ := h.acked
    rw [hid]
    decide
  | newBound => exact (by decide : (1 : UInt32) ≠ 0)
  | newBoundWithAuth => exact (by decide : (1 : UInt32) ≠ 0)
  | withMaxXmitFrag _ _ ih => exact ih

namespace Session

variable {c c' : RpcClient T A} {calls : List (Call A)}

/-- What no call changes. -/
theorem kept (h : Session c calls c') : c'.contextId = c.contextId ∧
    c'.maxXmitFrag = c.maxXmitFrag ∧ c'.authProvider = c.authProvider := by
  refine h.invariant (fun s => s.contextId = c.contextId ∧ s.maxXmitFrag = c.maxXmitFrag ∧
    s.authProvider = c.authProvider) ?_ ⟨rfl, rfl, rfl⟩
  rintro s call s' ⟨hctx, hmax, hauth⟩ hstep
  have hext := hstep.spec.extends_started
  exact ⟨hext.contextId.trans hctx, hext.maxXmitFrag.trans hmax, hext.authProvider.trans hauth⟩

/-- The call id advances once for each call, whatever its result. -/
theorem callId_eq (h : Session c calls c') (hc : c.callId ≠ 0) :
    c'.callId ≠ 0 ∧ c'.callId.toNat = callIdAfter c.callId calls.length := by
  induction h with
  | nil => exact ⟨hc, (callIdAfter_zero hc).symm⟩
  | @cons s s' s'' call calls step _ ih =>
    have hnext : s'.callId = RpcClient.succCallId s.callId := step.spec.extends_started.callId
    obtain ⟨hne, hid⟩ := ih (hnext ▸ succCallId_ne_zero hc)
    refine ⟨hne, ?_⟩
    rw [hid, hnext, callIdAfter_succ hc, List.length_cons]

/-- The call at a position of a session, and the client that made it. -/
theorem step_at {i : Nat} {call : Call A} (h : Session c calls c') (hi : calls[i]? = some call) :
    ∃ s s', Session c (calls.take i) s ∧ CallStep s call s' ∧ s.contextId = c.contextId ∧
      s.maxXmitFrag = c.maxXmitFrag ∧ s.authProvider = c.authProvider ∧
      (c.callId ≠ 0 → call.callId ≠ 0 ∧ call.callId.toNat = callIdAfter c.callId i) := by
  obtain ⟨s, s', hrun, hstep⟩ := h.split hi
  obtain ⟨hctx, hmax, hauth⟩ := kept hrun
  refine ⟨s, s', hrun, hstep, hctx, hmax, hauth, fun hc => ?_⟩
  obtain ⟨hlen, -⟩ := List.getElem?_eq_some_iff.mp hi
  have hid := callId_eq hrun hc
  rw [List.length_take_of_le (Nat.le_of_lt hlen)] at hid
  rw [hstep.callId]
  exact hid

/-- The ids of two calls of a session are different if there are fewer than
`2 ^ 32 - 1` calls from the one to the other. -/
theorem callId_ne {i j : Nat} {call call' : Call A} (h : Session c calls c') (hc : c.callId ≠ 0)
    (hij : i < j) (hj : j < i + (2 ^ 32 - 1)) (hi : calls[i]? = some call)
    (hi' : calls[j]? = some call') : call.callId ≠ call'.callId := by
  obtain ⟨_, _, -, -, -, -, -, hid⟩ := step_at h hi
  obtain ⟨_, _, -, -, -, -, -, hid'⟩ := step_at h hi'
  intro heq
  refine callIdAfter_ne hij hj (?_ : callIdAfter c.callId i = _)
  rw [← (hid hc).2, ← (hid' hc).2, heq]

end Session

/-! ## What an answer is made of -/

theorem CallStep.exists_fragments {c c' : RpcClient T A} {call : Call A} {stub : List UInt8}
    (h : CallStep c call c') (hok : call.result = .ok stub) :
    ∃ fragments : List (Fragment call.callId), received call.events = fragments.map (·.bytes) ∧
      stub = fragments.flatMap (·.response.stubData) := by
  obtain ⟨-, -, hresponse⟩ := h.spec.ok stub hok
  rw [h.callId]
  exact hresponse.exists_fragments

/-- What a call sends are packets with its own id. -/
theorem CallStep.callId_of_mem_sent {c c' : RpcClient T A} {call : Call A} {bytes : List UInt8}
    (h : CallStep c call c') (hb : bytes ∈ sent call.events) :
    ∃ packet, PduPacket.encode packet = .ok bytes ∧ packet.header.callId = call.callId := by
  have hx : 24 < c.maxXmitFrag.toNat := by
    by_contra hx
    rw [h.spec.sent_eq_nil.mpr fun hc => hx hc.1] at hb
    exact absurd hb List.not_mem_nil
  have hmem := h.spec.sent_prefix.subset hb
  simp only [requestFrames, List.mem_map] at hmem
  obtain ⟨f, hf, rfl⟩ := hmem
  obtain ⟨ho, hl⟩ := stubData_of_mem_requestFragments (by omega) hf
  have hmax := c.maxXmitFrag.toNat_lt
  exact ⟨_, requestFragmentPacket_encode ho (by omega), h.callId.symm⟩

/-- No answer crosses calls. -/
theorem Session.separated {c c' : RpcClient T A} {calls : List (Call A)} (hc : Constructed c)
    (h : Session c calls c') : Separated c calls c' := by
  have hid := hc.callId_ne_zero
  have hstep : ∀ call ∈ calls, ∃ s s', CallStep s call s' ∧ call.callId ≠ 0 := fun call hmem => by
    obtain ⟨i, hi⟩ := List.getElem?_of_mem hmem
    obtain ⟨s, s', -, hs, -, -, -, hs'⟩ := h.step_at hi
    exact ⟨s, s', hs, (hs' hid).1⟩
  have hanswer : ∀ call ∈ calls, ∀ stub, call.result = .ok stub →
      ∃ fragments : List (Fragment call.callId), received call.events = fragments.map (·.bytes) ∧
        stub = fragments.flatMap (·.response.stubData) := fun call hmem stub hok => by
    obtain ⟨s, s', hs, -⟩ := hstep call hmem
    exact hs.exists_fragments hok
  refine ⟨h.kept.1, h.kept.2.1, (h.callId_eq hid).2, ?_, ?_, ?_, ?_, hanswer, ?_⟩
  · intro call hmem
    obtain ⟨_, _, -, hne⟩ := hstep call hmem
    exact hne
  · intro i call hi
    obtain ⟨_, _, -, -, -, -, -, hi'⟩ := h.step_at hi
    exact (hi' hid).2
  · intro i j call call' hij hj hi hi'
    exact h.callId_ne hid hij hj hi hi'
  · intro call hmem bytes hb
    obtain ⟨_, _, hs, -⟩ := hstep call hmem
    exact hs.callId_of_mem_sent hb
  · -- a PDU that was read for a stub has the id of its call, and no other call of
    -- the window has that id
    intro i j call call' stub hne hij hji hi hj hok bytes hb packet hd
    obtain ⟨fragments, hfragments, -⟩ := hanswer call (List.mem_of_getElem? hi) stub hok
    rw [hfragments] at hb
    rw [Fragment.callId_of_mem hb hd]
    rcases Nat.lt_or_gt_of_ne hne with hlt | hlt
    · exact h.callId_ne hid hlt hji hi hj
    · exact (h.callId_ne hid hlt hij hj hi).symm

end

section

open Standard RpcClient

/-- A client whose transport delivers the response to its first call twice. -/
def duplicated : RpcClient MemoryTransport FixedProvider :=
  newBound ⟨List.replicate 2 (pdu .response 1 (responseBody [7])), []⟩ 0

/-- The second of the two responses is not taken for the answer to the second
call. -/
theorem Session.separated_duplicated : ∃ calls c', Session duplicated calls c' ∧
    calls.map (·.result) = [.ok [7],
      .error (.err (.invalidPdu "response call id does not match request"))] ∧
    Separated duplicated calls c' := by
  obtain ⟨events₁, h₁⟩ := CallStep.of_exec (c := duplicated) (r := .ok [7]) 1 0 [] rfl (by decide)
  obtain ⟨events₂, h₂⟩ := CallStep.of_exec (c := ((callRaw 1 0 []).exec duplicated).2)
    (r := .error (.err (.invalidPdu "response call id does not match request"))) 1 0 [] rfl
    (by decide)
  have hrun := Run.cons h₁ (.cons h₂ (.nil _))
  exact ⟨_, _, hrun, rfl, Session.separated (.newBound _ _) hrun⟩

end

/-! ## Every input is answered -/

section

variable [DataRepresentation] [UuidCrate] [RpcTransport T] [RpcAuthProvider A]

/-- Whatever bytes the transport delivers, the decoders, a bind and a call
end with a value or an error, or the call waits for another PDU. -/
theorem RpcClient.returns_on_any_input :
    (∀ bytes, Returns (PduPacket.decode bytes) ∧ Returns (SecurityTrailer.decode bytes) ∧
      Returns (BindPdu.decode bytes) ∧ (∀ bind : BindPdu, Returns bind.contextList) ∧
      Returns (BindAckPdu.decode bytes) ∧ Returns (BindNakPdu.decode bytes) ∧
      (∀ hasObject, Returns (RequestPdu.decode bytes hasObject)) ∧
      Returns (ResponsePdu.decode bytes) ∧ Returns (FaultPdu.decode bytes)) ∧
    (∀ (transport : T) (proposed : List PresentationContext), (∀ p ∈ proposed, p.Counted) →
      Returns (bindWithContexts (A := A) transport proposed).1 ∧
      ∀ (target : String) (authProvider : A),
        Returns (bindWithAuthProvider transport proposed target authProvider).1) ∧
    (∀ (transport : T) (interface : InterfaceId), Returns (bind (A := A) transport interface).1) ∧
    ∀ (c c' : RpcClient T A) (fuel : Nat) (opnum : UInt16) (stub : List UInt8)
      (r : Result (List UInt8)), (callRaw fuel opnum stub).exec c = (r, c') →
      Returns r ∨ r = .error .fuel ∧
        ∃ events, c'.trace = c.trace ++ events ∧ (received events).length = fuel := by
  refine ⟨fun bytes => ⟨PduPacket.returns_decode _, SecurityTrailer.returns_decode _,
    BindPdu.returns_decode _, fun bind => PresentationContextList.returns_decode _,
    BindAckPdu.returns_decode _, BindNakPdu.returns_decode _,
    fun hasObject => RequestPdu.returns_decode _ _, ResponsePdu.returns_decode _,
    FaultPdu.returns_decode _⟩, ?_, ?_, ?_⟩
  · intro transport proposed hp
    exact ⟨alwaysReturns_bindWithContextsInner hp "" _,
      fun target authProvider => alwaysReturns_bindWithContextsInner hp target _⟩
  · intro transport interface
    refine alwaysReturns_bindWithContextsInner (fun p hp => ?_) "" _
    rw [List.mem_singleton.mp hp]
    exact (by decide : 1 ≤ 255)
  · intro c c' fuel opnum stub r h
    obtain ⟨events, hspec, hreturns⟩ := callRaw_spec h
    refine hreturns.imp_right fun ⟨hr, hlen⟩ => ⟨hr, .callRaw opnum stub :: events, ?_, hlen⟩
    rw [hspec.extends_started.trace]
    exact (List.append_cons ..).symm

end

section

open Standard

/-- A client that is sent three bytes for a bind ack returns an error. -/
theorem RpcClient.returns_on_short_ack :
    Returns (bindWithContexts (A := FixedProvider) (⟨[[5, 0, 12]], []⟩ : MemoryTransport)
      [ndr32Context]).1 :=
  ((returns_on_any_input (T := MemoryTransport) (A := FixedProvider)).2.1 ⟨[[5, 0, 12]], []⟩
    [ndr32Context] (by decide)).1

end

end Rpce
