import MsrpceDcerpc.Proof.Packet
import MsrpceDcerpc.Spec.Session

/-!
# Sending a request

The loop of `send_request_fragments` with its offsets, flags and packets is
the sending of a list of byte strings that depends on nothing but the request
and the limit (`sendRequestFragments_exec`, `requestFrames`). What follows is
about lists: no PDU is longer than the limit or than the request needs
(`length_of_mem_requestFrames`), and the first one sent is that long.
-/

namespace Rpce

open Rust Endian Segment Eff Chunk

/-! ## The packets -/

section Packets

variable [UuidCrate] {callId : UInt32} {pfcFlags : UInt8} {r : RequestPdu}

theorem length_encode_of_no_object (ho : r.object = none) :
    r.encode.length = 8 + r.stubData.length := by
  rw [RequestPdu.length_encode, RequestPdu.length_objectBytes, ho]
  rfl

variable [DataRepresentation]

theorem requestFragmentPacket_eq (ho : r.object = none) :
    requestFragmentPacket callId pfcFlags r = .ofBody .request callId pfcFlags r.encode := by
  rw [PduPacket.ofBody, length_encode_of_no_object ho, ← Nat.add_assoc]
  rfl

theorem requestFrame_eq (ho : r.object = none) :
    requestFrame callId pfcFlags r = PduPacket.frame .request callId pfcFlags r.encode := by
  rw [requestFrame, requestFragmentPacket_eq ho]
  rfl

theorem fromRequestWithFlags_eq (ho : r.object = none) (hl : 24 + r.stubData.length ≤ 65535) :
    PduPacket.fromRequestWithFlags callId pfcFlags r =
      .ok (requestFragmentPacket callId pfcFlags r) := by
  have hlen := length_encode_of_no_object ho
  rw [PduPacket.fromRequestWithFlags_eq (by omega), ho, requestFragmentPacket_eq ho]
  exact congrArg (fun f => Except.ok (PduPacket.ofBody .request callId f r.encode)) (UInt8.or_zero)

theorem requestFragmentPacket_encode (ho : r.object = none) (hl : 24 + r.stubData.length ≤ 65535) :
    (requestFragmentPacket callId pfcFlags r).encode = .ok (requestFrame callId pfcFlags r) := by
  have hlen := length_encode_of_no_object ho
  rw [requestFragmentPacket_eq ho, PduPacket.encode_ofBody (by omega), requestFrame_eq ho]

theorem length_requestFrame (ho : r.object = none) :
    (requestFrame callId pfcFlags r).length = 24 + r.stubData.length := by
  rw [requestFrame_eq ho, PduPacket.length_frame, length_encode_of_no_object ho]
  omega

/-- A fragment is read back as it was sent. -/
theorem decode_requestFrame (hd : WindowsDefaultLittle) (ho : r.object = none)
    (hl : 24 + r.stubData.length ≤ 65535) :
    PduPacket.decode (requestFrame callId pfcFlags r) =
      .ok (requestFragmentPacket callId pfcFlags r) := by
  have hlen := length_encode_of_no_object ho
  rw [requestFrame_eq ho, PduPacket.decode_frame hd (by omega), requestFragmentPacket_eq ho]

end Packets

/-! ## The fragments of a request -/

section Fragments

variable [UuidCrate]

theorem stubData_of_mem_requestFragments {contextId opnum : UInt16} {stub : List UInt8} {n : Nat}
    {f : UInt8 × RequestPdu} (hn : 0 < n) (h : f ∈ requestFragments contextId opnum stub n) :
    f.2.object = none ∧ f.2.stubData.length ≤ min n stub.length := by
  simp only [requestFragments, fragmentsOf, List.mem_map] at h
  obtain ⟨⟨flags, chunk⟩, hmem, rfl⟩ := h
  exact ⟨rfl, length_le_of_mem_chunks hn (mem_of_mem_marked hmem)⟩

variable [DataRepresentation]

/-- No PDU of a request is longer than the limit, or than the stub needs. -/
theorem length_of_mem_requestFrames {callId : UInt32} {contextId opnum : UInt16} {stub : List UInt8}
    {maxXmitFrag : UInt16} {frame : List UInt8} (hx : 24 < maxXmitFrag.toNat)
    (h : frame ∈ requestFrames callId contextId opnum stub maxXmitFrag) :
    frame.length ≤ min maxXmitFrag.toNat (24 + stub.length) := by
  simp only [requestFrames, List.mem_map] at h
  obtain ⟨f, hf, rfl⟩ := h
  obtain ⟨ho, hl⟩ := stubData_of_mem_requestFragments (by omega) hf
  rw [length_requestFrame ho]
  omega

/-- The first PDU of a request is as long as the limit and the stub allow. -/
theorem exists_requestFrames_eq_cons (callId : UInt32) (contextId opnum : UInt16) (stub : List UInt8)
    {maxXmitFrag : UInt16} (hx : 24 < maxXmitFrag.toNat) :
    ∃ frame frames, requestFrames callId contextId opnum stub maxXmitFrag = frame :: frames ∧
      frame.length = min maxXmitFrag.toNat (24 + stub.length) := by
  obtain ⟨c, cs, hc, hlen⟩ := exists_chunks_eq_cons (n := maxXmitFrag.toNat - 24) (by omega) stub
  refine ⟨_, _, by rw [requestFrames, requestFragments, fragmentsOf, hc]; rfl, ?_⟩
  rw [length_requestFrame rfl, hlen]
  omega

theorem requestFrames_ne_nil (callId : UInt32) (contextId opnum : UInt16) (stub : List UInt8)
    {maxXmitFrag : UInt16} (hx : 24 < maxXmitFrag.toNat) :
    requestFrames callId contextId opnum stub maxXmitFrag ≠ [] := by
  obtain ⟨frame, frames, h, -⟩ := exists_requestFrames_eq_cons callId contextId opnum stub hx
  rw [h]
  exact List.cons_ne_nil _ _

end Fragments

/-! ## The loop -/

namespace RpcClient

variable {T A : Type}

theorem checkAuthLevel_eq_ok [RpcAuthProvider A] {authProvider : Option A} {u : Unit} :
    checkAuthLevel authProvider = .ok u ↔ LevelSupported authProvider := by
  unfold checkAuthLevel LevelSupported
  cases authProvider with
  | none => simp
  | some a =>
    cases h : RpcAuthProvider.authLevel a <;>
      simp [h, AuthLevel.Supported]

theorem returns_checkAuthLevel [RpcAuthProvider A] (authProvider : Option A) :
    Returns (checkAuthLevel authProvider) := by
  unfold checkAuthLevel
  split
  · exact .ok _
  · split <;> first | exact .ok _ | exact .err _

/-- `c'` is `c` with another transport and `events` more in its trace. -/
structure Extends (c c' : RpcClient T A) (events : List (Event A)) : Prop where
  contextId : c'.contextId = c.contextId
  callId : c'.callId = c.callId
  maxXmitFrag : c'.maxXmitFrag = c.maxXmitFrag
  authProvider : c'.authProvider = c.authProvider
  trace : c'.trace = c.trace ++ events

namespace Extends

theorem refl (c : RpcClient T A) : Extends c c [] := ⟨rfl, rfl, rfl, rfl, (List.append_nil _).symm⟩

theorem trans {c c' c'' : RpcClient T A} {e e' : List (Event A)} (h : Extends c c' e)
    (h' : Extends c' c'' e') : Extends c c'' (e ++ e') where
  contextId := h'.contextId.trans h.contextId
  callId := h'.callId.trans h.callId
  maxXmitFrag := h'.maxXmitFrag.trans h.maxXmitFrag
  authProvider := h'.authProvider.trans h.authProvider
  trace := by rw [h'.trace, h.trace, List.append_assoc]

theorem eq_of_trace {c c' : RpcClient T A} {e e' : List (Event A)} (h : Extends c c' e)
    (ht : c'.trace = c.trace ++ e') : e' = e :=
  List.append_cancel_left (ht.symm.trans h.trace)

end Extends

theorem sendPdu_exec [RpcTransport T] {c c' : RpcClient T A} {frame : List UInt8} {r : Result Unit}
    (h : (onWorld (sendPdu frame)).exec c = (r, c')) :
    ∃ result, r = mapErr result id ∧ Extends c c' [.sendPdu frame c.authProvider result] := by
  obtain rfl : _ = r := congrArg Prod.fst h
  obtain rfl : _ = c' := congrArg Prod.snd h
  exact ⟨_, rfl, rfl, rfl, rfl, rfl, rfl⟩

/-- Sends the PDUs of a list, one after the other. -/
def sendFrames [RpcTransport T] : List (List UInt8) → Eff (Stop Error) (RpcClient T A) Unit
  | [] => return
  | frame :: frames => do
    onWorld (sendPdu frame)
    sendFrames frames

/-- What sending a list of PDUs does: a prefix of the list is handed to the
transport, all of it if nothing failed, and not nothing if there is anything. -/
theorem sendFrames_spec [RpcTransport T] {c c' : RpcClient T A} {frames : List (List UInt8)}
    {r : Result Unit} (h : (sendFrames frames).exec c = (r, c')) :
    ∃ events, Extends c c' events ∧ received events = [] ∧ stubs events = [] ∧
      sent events <+: frames ∧ (sent events = [] → frames = []) ∧
      ((∃ e, r = .error (.err e)) ∨ r = .ok () ∧ sent events = frames) := by
  induction frames generalizing c with
  | nil =>
    cases h
    exact ⟨[], Extends.refl _, rfl, rfl, List.prefix_rfl, fun _ => rfl, .inr ⟨rfl, rfl⟩⟩
  | cons frame frames ih =>
    rw [sendFrames, exec_bind] at h
    rcases hs : (onWorld (sendPdu frame) : Eff (Stop Error) (RpcClient T A) Unit).exec c with ⟨r₁, c₁⟩
    obtain ⟨result, rfl, hext⟩ := sendPdu_exec hs
    rw [hs] at h
    have hone : ∀ events, sent (Event.sendPdu frame c.authProvider result :: events) =
      frame :: sent events := fun _ => rfl
    cases result with
    | error e =>
      cases h
      exact ⟨_, hext, rfl, rfl, ⟨frames, rfl⟩, fun h => (by cases h), .inl ⟨e, rfl⟩⟩
    | ok u =>
      obtain ⟨events, hext', hrecv, hstubs, hpre, -, hr⟩ := ih h
      refine ⟨_, hext.trans hext', hrecv, hstubs, ?_, fun h => (by cases h), ?_⟩
      · rw [List.singleton_append, hone, List.prefix_cons_inj]
        exact hpre
      · rw [List.singleton_append, hone]
        exact hr.imp_right fun ⟨hok, hall⟩ => ⟨hok, by rw [hall]⟩

theorem sendFrames_cons_exec [RpcTransport T] {c : RpcClient T A}
    {x y : Eff (Stop Error) (RpcClient T A) Unit} {frame : List UInt8} {frames : List (List UInt8)}
    (hx : x.exec c = (onWorld (sendPdu frame)).exec c)
    (hy : ∀ c', (onWorld (sendPdu frame)).exec c = (.ok (), c') →
      y.exec c' = (sendFrames frames).exec c') :
    (x >>= fun _ => y).exec c = (sendFrames (frame :: frames)).exec c := by
  rw [sendFrames, exec_bind, exec_bind, hx]
  split
  · rename_i h
    exact hy _ h
  · rfl

variable [DataRepresentation] [UuidCrate] [RpcTransport T] [RpcAuthProvider A]

theorem sendFragment_exec {c : RpcClient T A} {callId : UInt32} {pfcFlags : UInt8} {r : RequestPdu}
    (hlevel : LevelSupported c.authProvider) (ho : r.object = none)
    (hl : 24 + r.stubData.length ≤ 65535) :
    (sendFragment callId pfcFlags r).exec c =
      (onWorld (sendPdu (requestFrame callId pfcFlags r))).exec c := by
  have hcheck := checkAuthLevel_eq_ok (u := ()).mpr hlevel
  simp only [sendFragment, requestPacket, exec_bind, exec_get, exec_lift, hcheck,
    fromRequestWithFlags_eq ho hl, requestFragmentPacket_encode ho hl]

/-- Without a supported level no fragment is sent. -/
theorem sendFragment_exec_unsupported {c : RpcClient T A} (callId : UInt32) (pfcFlags : UInt8)
    (r : RequestPdu) (hlevel : ¬ LevelSupported c.authProvider) :
    ∃ e, (sendFragment callId pfcFlags r).exec c = (.error (.err e), c) := by
  have hcheck : ∃ e, checkAuthLevel c.authProvider = .error (.err e) := by
    rw [← checkAuthLevel_eq_ok (u := ())] at hlevel
    unfold checkAuthLevel at hlevel ⊢
    split at hlevel <;> try exact absurd rfl hlevel
    split at hlevel <;> first | exact absurd rfl hlevel | exact ⟨_, rfl⟩
  obtain ⟨e, he⟩ := hcheck
  exact ⟨e, by simp only [sendFragment, requestPacket, exec_bind, exec_get, exec_lift, he]⟩

/-- The loop from `offset` on sends the rest of the stub in pieces. -/
theorem sendLoop_exec {c : RpcClient T A} {callId : UInt32} {opnum : UInt16} {stub : List UInt8}
    {n fuel offset : Nat} (hlevel : LevelSupported c.authProvider) (hn : 0 < n) (hn' : n ≤ 65511)
    (hoffset : offset < stub.length) (hfuel : stub.length - offset ≤ fuel) :
    (sendLoop callId opnum stub n fuel offset).exec c =
      (sendFrames ((fragmentsOf c.contextId opnum (UInt32.ofNat stub.length)
        (if offset = 0 then PFC_FIRST_FRAG else 0) (chunks n (stub.drop offset))).map
          fun (flags, request) => requestFrame callId flags request)).exec c := by
  induction fuel generalizing c offset with
  | zero => omega
  | succ fuel ih =>
    have hslice : (slice stub offset (min (offset + n) stub.length) : Result (List UInt8)) =
        .ok ((stub.drop offset).take n) := by
      rw [slice_eq_ok, List.length_take, List.length_drop]
      exact ⟨by omega, by omega, by omega, at_take_drop _ _ _⟩
    have hlen : (stub.drop offset).length = stub.length - offset := List.length_drop
    simp only [sendLoop, hoffset, if_true]
    rw [exec_lift_bind_of_ok hslice, exec_bind_of_ok (exec_get c)]
    by_cases hlast : stub.length - offset ≤ n
    · -- the rest fits into one fragment, and the loop ends after it
      have hstop : min (offset + n) stub.length = stub.length := by omega
      rw [hstop, chunks_of_le (by omega), List.take_of_length_le (by omega)]
      simp only [fragmentsOf, marked, List.map_cons, List.map_nil, List.isEmpty_nil, if_true]
      refine sendFrames_cons_exec (sendFragment_exec hlevel rfl ?_) fun c' _ => ?_
      · show 24 + (stub.drop offset).length ≤ 65535
        omega
      · cases fuel <;> simp only [sendLoop, Nat.lt_irrefl, if_false] <;> rfl
    · have hstop : min (offset + n) stub.length = offset + n := by omega
      have hne : ¬ offset + n = stub.length := by omega
      rw [hstop, chunks_of_lt hn (by omega), List.drop_drop]
      simp only [fragmentsOf, marked, List.map_cons, isEmpty_chunks, Bool.false_eq_true, hne, if_false]
      refine sendFrames_cons_exec (sendFragment_exec hlevel rfl ?_) fun c' hc' => ?_
      · show 24 + ((stub.drop offset).take n).length ≤ 65535
        rw [List.length_take]
        omega
      · have hkept : c'.authProvider = c.authProvider ∧ c'.contextId = c.contextId := by
          obtain rfl : _ = c' := congrArg Prod.snd hc'
          exact ⟨rfl, rfl⟩
        rw [ih (hkept.1 ▸ hlevel) (by omega) (by omega), hkept.2, if_neg (by omega)]
        rfl

/-- The part of `send_request_fragments` after its checks. -/
theorem sendRequestFragments_exec_of_lt {c : RpcClient T A} {callId : UInt32} {opnum : UInt16}
    {stub : List UInt8} (hx : 24 < c.maxXmitFrag.toNat) :
    (sendRequestFragments callId opnum stub).exec c =
      if stub = [] then
        (sendFragment callId (PFC_FIRST_FRAG ||| PFC_LAST_FRAG)
          (requestFragment c opnum 0 stub)).exec c
      else (sendLoop callId opnum stub (c.maxXmitFrag.toNat - 24) stub.length 0).exec c := by
  have hsub : (okOr (checkedSub c.maxXmitFrag.toNat (headerLen + REQUEST_HEADER_LEN))
      (Error.invalidPdu "max transmit fragment is too small") : Result Nat) =
      .ok (c.maxXmitFrag.toNat - 24) := by
    rw [okOr_eq_ok, checkedSub_eq_some]
    exact ⟨by show 24 ≤ _; omega, rfl⟩
  simp only [sendRequestFragments]
  rw [exec_bind_of_ok (exec_get c), exec_lift_bind_of_ok hsub,
    exec_lift_bind_of_ok (failIf_of_not _ (by omega))]
  split <;> rfl

/-- `send_request_fragments` sends the frames of the request, one after the
other. -/
theorem sendRequestFragments_exec {c : RpcClient T A} (callId : UInt32) (opnum : UInt16)
    (stub : List UInt8) (hlevel : LevelSupported c.authProvider) (hx : 24 < c.maxXmitFrag.toNat) :
    (sendRequestFragments callId opnum stub).exec c =
      (sendFrames (requestFrames callId c.contextId opnum stub c.maxXmitFrag)).exec c := by
  have hmax := c.maxXmitFrag.toNat_lt
  rw [sendRequestFragments_exec_of_lt hx]
  split
  · rename_i hnil
    subst hnil
    have hl : 24 + (requestFragment c opnum 0 []).stubData.length ≤ 65535 := by
      show 24 + 0 ≤ 65535
      omega
    rw [sendFragment_exec hlevel rfl hl, requestFrames, requestFragments, chunks_of_le (Nat.zero_le _)]
    simp only [fragmentsOf, marked, List.map_cons, List.map_nil, List.isEmpty_nil, if_true]
    rw [sendFrames, exec_bind]
    split
    · rename_i h
      exact h
    · rename_i h
      exact h
  · rename_i hne
    have hpos : 0 < stub.length := List.length_pos_iff.mpr hne
    rw [sendLoop_exec hlevel (by omega) (by omega) hpos (by omega)]
    rfl

/-- Without room for a byte of the stub nothing is sent. -/
theorem sendRequestFragments_exec_of_le {c : RpcClient T A} (callId : UInt32) (opnum : UInt16)
    (stub : List UInt8) (hx : c.maxXmitFrag.toNat ≤ 24) :
    (sendRequestFragments callId opnum stub).exec c =
      (.error (.err (.invalidPdu "max transmit fragment is too small")), c) := by
  have hlen : headerLen + REQUEST_HEADER_LEN = 24 := rfl
  simp only [sendRequestFragments]
  rw [exec_bind_of_ok (exec_get c)]
  rcases Nat.lt_or_eq_of_le hx with hx | hx
  · have hsub : checkedSub c.maxXmitFrag.toNat (headerLen + REQUEST_HEADER_LEN) = none := by
      rw [checkedSub, hlen, if_neg (by omega)]
    rw [hsub, exec_lift_bind_of_error (x := okOr none _) rfl]
  · have hsub : checkedSub c.maxXmitFrag.toNat (headerLen + REQUEST_HEADER_LEN) = some 0 := by
      rw [checkedSub, hlen, hx]
      rfl
    rw [hsub, exec_lift_bind_of_ok (x := okOr (some 0) _) rfl,
      exec_lift_bind_of_error (failIf_of _ rfl)]

/-- Without room for a byte of the stub, or without a supported level, nothing
is sent. -/
theorem sendRequestFragments_exec_error {c : RpcClient T A} (callId : UInt32) (opnum : UInt16)
    (stub : List UInt8) (h : c.maxXmitFrag.toNat ≤ 24 ∨ ¬ LevelSupported c.authProvider) :
    ∃ e, (sendRequestFragments callId opnum stub).exec c = (.error (.err e), c) := by
  rcases Nat.lt_or_ge 24 c.maxXmitFrag.toNat with hx | hx
  · have hlevel : ¬ LevelSupported c.authProvider := h.resolve_left (by omega)
    rw [sendRequestFragments_exec_of_lt hx]
    split
    · exact sendFragment_exec_unsupported _ _ _ hlevel
    · rename_i hne
      have hpos : 0 < stub.length := List.length_pos_iff.mpr hne
      obtain ⟨fuel, hfuel⟩ : ∃ fuel, stub.length = fuel + 1 := ⟨_, (Nat.succ_pred hpos.ne').symm⟩
      have hslice : (slice stub 0 (min (0 + (c.maxXmitFrag.toNat - 24)) stub.length) :
          Result (List UInt8)) = .ok _ := if_pos ⟨Nat.zero_le _, Nat.min_le_right _ _⟩
      obtain ⟨e, he⟩ := sendFragment_exec_unsupported callId _ _ hlevel
      refine ⟨e, ?_⟩
      rw [show sendLoop callId opnum stub (c.maxXmitFrag.toNat - 24) stub.length 0 =
        sendLoop callId opnum stub (c.maxXmitFrag.toNat - 24) (fuel + 1) 0 by rw [hfuel]]
      simp only [sendLoop, hpos, if_true]
      rw [exec_lift_bind_of_ok hslice, exec_bind_of_ok (exec_get c)]
      exact exec_bind_of_error he
  · exact ⟨_, sendRequestFragments_exec_of_le _ _ _ hx⟩

end RpcClient

end Rpce
