import Mathlib.Data.List.Forall2
import MsrpceDcerpc.Spec.Fragments
import MsrpceDcerpc.Spec.Standard
import MsrpceDcerpc.Proof.Send

/-!
# The fragments of a request

`send_request_fragments` sends `requestFrames`; what a reader decodes from
these is `requestFrames_inFragments`, and what becomes of them on a transport
that accepts all of them, or refuses one, is `sendFrames_accepted` and
`sendFrames_refused`. Together they are `RpcClient.request_fragmentation`.
-/

namespace Rpce

open Rust Endian Segment Eff Chunk

/-! ## What is decoded -/

/-- The two flags of a fragment, each of them read back. -/
theorem flags_of_fragment (p q : Prop) [Decidable p] [Decidable q] :
    let flags := (if p then PFC_FIRST_FRAG else 0) ||| (if q then PFC_LAST_FRAG else 0)
    (flags &&& PFC_FIRST_FRAG ≠ 0 ↔ p) ∧ (flags &&& PFC_LAST_FRAG ≠ 0 ↔ q) ∧
      flags &&& PFC_OBJECT_UUID = 0 := by
  by_cases hp : p <;> by_cases hq : q <;> simp only [hp, hq, if_true, if_false, iff_true, iff_false] <;>
    decide

section Decoded

variable [UuidCrate]

/-- The fragment at a position of a request. -/
theorem getElem?_requestFragments (contextId opnum : UInt16) (stub : List UInt8) (n i : Nat) :
    (requestFragments contextId opnum stub n)[i]? = (chunks n stub)[i]?.map fun stubData =>
      ((if i = 0 then PFC_FIRST_FRAG else 0) |||
          (if i + 1 = (chunks n stub).length then PFC_LAST_FRAG else 0),
        { allocHint := UInt32.ofNat stub.length, ctxId := contextId, opnum, object := none,
          stubData }) := by
  rw [requestFragments, fragmentsOf, List.getElem?_map, getElem?_marked, Option.map_map]
  rfl

theorem length_requestFragments (contextId opnum : UInt16) (stub : List UInt8) (n : Nat) :
    (requestFragments contextId opnum stub n).length = (chunks n stub).length := by
  rw [requestFragments, fragmentsOf, List.length_map, ← List.length_map, map_snd_marked]

theorem flatMap_requestFragments (contextId opnum : UInt16) (stub : List UInt8) (n : Nat) :
    (requestFragments contextId opnum stub n).flatMap (·.2.stubData) = stub := by
  rw [requestFragments, fragmentsOf, List.flatMap_map]
  show (marked _ _ _ _ _).flatMap Prod.snd = stub
  rw [List.flatMap_def, map_snd_marked, flatten_chunks]

theorem of_getElem?_requestFragments {contextId opnum : UInt16} {stub : List UInt8} {n i : Nat}
    {f : UInt8 × RequestPdu} (h : (requestFragments contextId opnum stub n)[i]? = some f) :
    ∃ stubData, (chunks n stub)[i]? = some stubData ∧
      f.1 = (if i = 0 then PFC_FIRST_FRAG else 0) ||| (if i + 1 = (chunks n stub).length
        then PFC_LAST_FRAG else 0) ∧
      f.2 = { allocHint := UInt32.ofNat stub.length, ctxId := contextId, opnum, object := none,
              stubData } := by
  rw [getElem?_requestFragments, Option.map_eq_some_iff] at h
  obtain ⟨stubData, hchunk, rfl⟩ := h
  exact ⟨stubData, hchunk, rfl, rfl⟩

/-- What the fragments of a request have in common. -/
theorem of_mem_requestFragments {contextId opnum : UInt16} {stub : List UInt8} {n : Nat}
    {f : UInt8 × RequestPdu} (h : f ∈ requestFragments contextId opnum stub n) :
    f.1 &&& PFC_OBJECT_UUID = 0 ∧ f.2.ctxId = contextId ∧ f.2.opnum = opnum ∧
      f.2.allocHint = UInt32.ofNat stub.length := by
  obtain ⟨i, hi⟩ := List.getElem?_of_mem h
  obtain ⟨stubData, -, hflags, hrequest⟩ := of_getElem?_requestFragments hi
  rw [hflags, hrequest]
  exact ⟨(flags_of_fragment _ _).2.2, rfl, rfl, rfl⟩

/-- The flags of a fragment say whether it is the first or the last. -/
theorem flags_of_getElem?_requestFragments {contextId opnum : UInt16} {stub : List UInt8} {n i : Nat}
    {f : UInt8 × RequestPdu} (h : (requestFragments contextId opnum stub n)[i]? = some f) :
    (f.1 &&& PFC_FIRST_FRAG ≠ 0 ↔ i = 0) ∧
      (f.1 &&& PFC_LAST_FRAG ≠ 0 ↔ i + 1 = (requestFragments contextId opnum stub n).length) := by
  obtain ⟨-, -, hflags, -⟩ := of_getElem?_requestFragments h
  rw [hflags, length_requestFragments]
  exact ⟨(flags_of_fragment _ _).1, (flags_of_fragment _ _).2.1⟩

variable [DataRepresentation]

/-- **What is read.** The PDUs of a request are its fragments. -/
theorem requestFrames_inFragments (hd : WindowsDefaultLittle) (callId : UInt32)
    (contextId opnum : UInt16) (stub : List UInt8) {maxXmitFrag : UInt16}
    (hx : 24 < maxXmitFrag.toNat) :
    RequestInFragments callId contextId opnum stub maxXmitFrag.toNat
      (requestFrames callId contextId opnum stub maxXmitFrag)
      ((requestFragments contextId opnum stub (maxXmitFrag.toNat - 24)).map fun f =>
        (requestFragmentPacket callId f.1 f.2, f.2)) := by
  have hmax := maxXmitFrag.toNat_lt
  have hn : 0 < maxXmitFrag.toNat - 24 := by omega
  have hlen := length_requestFragments contextId opnum stub (maxXmitFrag.toNat - 24)
  have hfits : ∀ f ∈ requestFragments contextId opnum stub (maxXmitFrag.toNat - 24),
      f.2.object = none ∧ 24 + f.2.stubData.length ≤ 65535 := fun f hf => by
    have h := stubData_of_mem_requestFragments hn hf
    exact ⟨h.1, by omega⟩
  constructor
  case decode =>
    rw [requestFrames, List.forall₂_map_left_iff, List.forall₂_map_right_iff, List.forall₂_same]
    intro f hf
    obtain ⟨ho, hl⟩ := hfits f hf
    exact ⟨decode_requestFrame hd ho hl, RequestPdu.decode_eq_ok.mpr ⟨rfl, by rw [ho]; rfl⟩⟩
  case ptype => exact List.forall_mem_map.mpr fun f _ => rfl
  case callId => exact List.forall_mem_map.mpr fun f _ => rfl
  case contextId => exact List.forall_mem_map.mpr fun f hf => (of_mem_requestFragments hf).2.1
  case opnum => exact List.forall_mem_map.mpr fun f hf => (of_mem_requestFragments hf).2.2.1
  case noObject => exact List.forall_mem_map.mpr fun f hf => (of_mem_requestFragments hf).1
  case allocHint =>
    refine List.forall_mem_map.mpr fun f hf => ?_
    rw [(of_mem_requestFragments hf).2.2.2, UInt32.toNat_ofNat']
  case stubData =>
    rw [List.flatMap_map]
    exact flatMap_requestFragments contextId opnum stub _
  case first =>
    intro i f hf
    rw [List.getElem?_map, Option.map_eq_some_iff] at hf
    obtain ⟨f, hi, rfl⟩ := hf
    exact (flags_of_getElem?_requestFragments hi).1
  case last =>
    intro i f hf
    rw [List.getElem?_map, Option.map_eq_some_iff] at hf
    obtain ⟨f, hi, rfl⟩ := hf
    rw [List.length_map]
    exact (flags_of_getElem?_requestFragments hi).2
  case size =>
    intro pdu hpdu
    have := length_of_mem_requestFrames hx hpdu
    omega
  case full =>
    intro i pdu hpdu hi
    rw [requestFrames, List.getElem?_map, Option.map_eq_some_iff] at hpdu
    rw [requestFrames, List.length_map, hlen] at hi
    obtain ⟨f, hf, rfl⟩ := hpdu
    obtain ⟨stubData, hchunk, -, hrequest⟩ := of_getElem?_requestFragments hf
    rw [length_requestFrame (hfits f (List.mem_of_getElem? hf)).1, hrequest,
      length_of_getElem?_chunks hchunk hi]
    omega
  case count => rw [requestFrames, List.length_map, hlen, length_chunks hn]

end Decoded

/-! ## What is sent -/

namespace RpcClient

variable {T A : Type}

section Frames

variable [RpcTransport T]

/-- Sending one PDU, and then the rest. -/
theorem sendFrames_cons_of_ok {c : RpcClient T A} {pdu : List UInt8} {t : T}
    (h : RpcTransport.sendPdu c.transport pdu = (.ok (), t)) (pdus : List (List UInt8)) :
    (sendFrames (pdu :: pdus)).exec c = (sendFrames pdus).exec (c.afterSend [pdu] t) := by
  have hone : (onWorld (sendPdu pdu)).exec c = (.ok (), c.afterSend [pdu] t) :=
    exec_zoom (exec_sendPdu h)
  rw [sendFrames, exec_bind_of_ok hone]

/-- The PDUs in front of `rest` are accepted. -/
theorem sendFrames_append {c : RpcClient T A} {pdus : List (List UInt8)} {t : T}
    (h : AcceptsAll c.transport pdus t) (rest : List (List UInt8)) :
    (sendFrames (pdus ++ rest)).exec c = (sendFrames rest).exec (c.afterSend pdus t) := by
  generalize ht : c.transport = t₀ at h
  induction h generalizing c with
  | nil =>
    rw [← ht, afterSend_nil]
    rfl
  | @cons t₀ t₁ t' pdu pdus hs _ ih =>
    rw [List.cons_append, sendFrames_cons_of_ok (ht ▸ hs), ih rfl, afterSend_append]
    rfl

/-- A transport that accepts all PDUs. -/
theorem sendFrames_accepted {c : RpcClient T A} {pdus : List (List UInt8)} {t : T}
    (h : AcceptsAll c.transport pdus t) :
    (sendFrames pdus).exec c = (.ok (), c.afterSend pdus t) := by
  have hrest := sendFrames_append h []
  rw [List.append_nil] at hrest
  exact hrest

/-- A transport that refuses the PDU at `k`, after accepting those before. -/
theorem sendFrames_refused {c : RpcClient T A} {pdus : List (List UInt8)} {k : Nat}
    {pdu : List UInt8} {t t' : T} {e : Error} (hget : pdus[k]? = some pdu)
    (h : AcceptsAll c.transport (pdus.take k) t) (hs : RpcTransport.sendPdu t pdu = (.error e, t')) :
    (sendFrames pdus).exec c =
      (.error (.err e), (c.afterSend (pdus.take k) t).afterRefusal pdu e t') := by
  obtain ⟨hk, rfl⟩ := List.getElem?_eq_some_iff.mp hget
  have hone : (onWorld (sendPdu pdus[k])).exec (c.afterSend (pdus.take k) t) =
      (.error (.err e), (c.afterSend (pdus.take k) t).afterRefusal pdus[k] e t') :=
    exec_zoom (exec_sendPdu (w := (c.afterSend (pdus.take k) t).toWorld) hs)
  have hsplit : pdus = pdus.take k ++ pdus[k] :: pdus.drop (k + 1) := by
    rw [List.getElem_cons_drop, List.take_append_drop]
  conv_lhs => rw [hsplit]
  rw [sendFrames_append h, sendFrames, exec_bind_of_error hone]

end Frames

variable [DataRepresentation] [UuidCrate] [RpcTransport T] [RpcAuthProvider A]

/-- **Request fragmentation.** Without room for a byte of the stub nothing is
sent. Otherwise the request is some PDUs, read as its fragments, of which a
transport that accepts them gets all, and any other those before the first
that it refuses. -/
theorem request_fragmentation (hd : WindowsDefaultLittle) (callId : UInt32) (opnum : UInt16)
    (stub : List UInt8) (c : RpcClient T A) (hlevel : LevelSupported c.authProvider) :
    (c.maxXmitFrag.toNat ≤ 24 → ∃ e, (sendRequestFragments callId opnum stub).exec c =
      (.error (.err e), c)) ∧
    (24 < c.maxXmitFrag.toNat → ∃ pdus fragments,
      RequestInFragments callId c.contextId opnum stub c.maxXmitFrag.toNat pdus fragments ∧
      (∀ t, AcceptsAll c.transport pdus t →
        (sendRequestFragments callId opnum stub).exec c = (.ok (), c.afterSend pdus t)) ∧
      (∀ k pdu t e t', pdus[k]? = some pdu → AcceptsAll c.transport (pdus.take k) t →
        RpcTransport.sendPdu t pdu = (.error e, t') →
        (sendRequestFragments callId opnum stub).exec c =
          (.error (.err e), (c.afterSend (pdus.take k) t).afterRefusal pdu e t')) ∧
      ((∃ t, AcceptsAll c.transport pdus t) ∨ ∃ k pdu t e t', pdus[k]? = some pdu ∧
        AcceptsAll c.transport (pdus.take k) t ∧ RpcTransport.sendPdu t pdu = (.error e, t'))) := by
  refine ⟨fun hx => sendRequestFragments_exec_error callId opnum stub (.inl hx), fun hx => ?_⟩
  refine ⟨_, _, requestFrames_inFragments hd callId c.contextId opnum stub hx, fun t h => ?_,
    fun k pdu t e t' hget h hs => ?_, acceptsAll_or _ _⟩
  · rw [sendRequestFragments_exec callId opnum stub hlevel hx, sendFrames_accepted h]
  · rw [sendRequestFragments_exec callId opnum stub hlevel hx, sendFrames_refused hget h hs]

end RpcClient

section

open Standard

/-- A client that may send one byte of a stub at a time. -/
def tinyClient : RpcClient MemoryTransport FixedProvider :=
  (newBound ⟨[], []⟩ 0).withMaxXmitFrag 25

theorem acceptsAll_memoryTransport (t : MemoryTransport) (pdus : List (List UInt8)) :
    AcceptsAll t pdus { t with sent := t.sent ++ pdus } := by
  induction pdus generalizing t with
  | nil =>
    rw [List.append_nil]
    exact .nil t
  | cons pdu pdus ih =>
    have hrest := ih { t with sent := t.sent ++ [pdu] }
    rw [List.append_assoc] at hrest
    exact .cons rfl hrest

/-- It sends two bytes in two PDUs. -/
theorem RpcClient.request_fragmentation_tiny : ∃ pdus fragments,
    RequestInFragments 1 0 7 [8, 9] 25 pdus fragments ∧ pdus.length = 2 ∧
    (sendRequestFragments 1 7 [8, 9]).exec tinyClient = (.ok (), tinyClient.afterSend pdus ⟨[], pdus⟩) := by
  have hlevel : LevelSupported tinyClient.authProvider := fun a ha => (by cases ha)
  obtain ⟨pdus, fragments, hread, hok, -⟩ :=
    (request_fragmentation windowsDefaultLittle 1 7 [8, 9] tinyClient hlevel).2 (by decide)
  exact ⟨pdus, fragments, hread, hread.count, hok _ (acceptsAll_memoryTransport _ pdus)⟩

end

end Rpce
