import MsrpceDcerpc.Spec.Wire

/-!
# What the decoders of `pdu.rs` accept

For each decoder, the bytes it accepts and what it returns for them, as one
equivalence (`decode_eq_ok`): the round trip is its direction from right to
left, and what an accepted input looks like is the other. Next to it, that
the decoder returns for all bytes (`returns_decode`).
-/

namespace Rpce

open Rust Endian Segment

/-! ## The security trailer -/

namespace SecurityTrailer

@[simp] theorem length_encode (t : SecurityTrailer) : t.encode.length = 8 := by
  simp only [encode, List.length_append, List.length_cons, List.length_nil, length_u32Bytes]

/-- The fields of a trailer at their offsets. -/
theorem at_encode {bytes : List UInt8} {t : SecurityTrailer} :
    At bytes 0 t.encode ↔ At bytes 0 [t.authType.toUInt8] ∧ At bytes 1 [t.authLevel.toUInt8] ∧
      At bytes 2 [t.authPadLength] ∧ At bytes 3 [t.authReserved] ∧
      At bytes 4 (u32Bytes .little t.authContextId) := by
  simp only [encode, at_append, at_cons_cons, List.length_cons, List.length_nil, Nat.reduceAdd,
    and_assoc]

theorem decode_eq_ok {bytes : List UInt8} {t : SecurityTrailer} :
    decode bytes = .ok t ↔ At bytes 0 t.encode := by
  simp only [decode, bind_eq_ok, failIf_eq_ok, index_eq_ok, mapErr_eq_ok, readU32_eq_ok,
    pure_eq_ok, Except.ok.injEq]
  constructor
  · rintro ⟨-, -, b0, h0, type, htype, b1, h1, level, hlevel, b2, h2, b3, h3, ctx, ⟨-, h4⟩, rfl⟩
    rw [at_encode, ← RpcAuthType.tryFrom_eq_ok htype, ← AuthLevel.tryFrom_eq_ok hlevel]
    exact ⟨h0, h1, h2, h3, h4⟩
  · intro h
    have hl := h.length_le (Nat.zero_le _)
    rw [length_encode] at hl
    obtain ⟨h0, h1, h2, h3, h4⟩ := at_encode.mp h
    exact ⟨(), by simp only [LEN]; omega, _, h0, _, RpcAuthType.tryFrom_toUInt8 _, _, h1, _,
      AuthLevel.tryFrom_toUInt8 _, _, h2, _, h3, _, ⟨by omega, h4⟩, rfl⟩

theorem returns_decode (bytes : List UInt8) : Returns (decode bytes) := by
  refine .bind (.failIf _ _) fun _ hl => ?_
  have h8 : LEN = 8 := rfl
  rw [failIf_eq_ok, h8] at hl
  refine .bind (.index (by omega)) fun _ _ => .bind (.mapErr _ _) fun _ _ => ?_
  refine .bind (.index (by omega)) fun _ _ => .bind (.mapErr _ _) fun _ _ => ?_
  refine .bind (.index (by omega)) fun _ _ => .bind (.index (by omega)) fun _ _ => ?_
  exact .bind (.readU32 (by omega)) fun _ _ => .ok _

end SecurityTrailer

/-! ## The common header -/

namespace PduType

@[simp] theorem tryFrom_toUInt8 (t : PduType) : tryFrom t.toUInt8 = .ok t := by
  cases t <;> rfl

theorem tryFrom_eq_ok {value : UInt8} {t : PduType} (h : tryFrom value = .ok t) :
    value = t.toUInt8 := by
  unfold tryFrom at h
  split at h <;> cases h <;> rfl

theorem returns_tryFrom (value : UInt8) : Returns (tryFrom value) := by
  unfold tryFrom
  split <;> first | exact .ok _ | exact .err _

end PduType

namespace PduHeader

variable [DataRepresentation]

@[simp] theorem length_encode (h : PduHeader) : h.encode.length = 16 := by
  simp only [encode, PackedDrep.toList, List.length_append, List.length_cons, List.length_nil,
    length_u16Bytes, length_u32Bytes]

/-- The fields of a header at their offsets. -/
theorem at_encode {bytes : List UInt8} {h : PduHeader} :
    At bytes 0 h.encode ↔ At bytes 0 [h.rpcVers] ∧ At bytes 1 [h.rpcVersMinor] ∧
      At bytes 2 [h.ptype.toUInt8] ∧ At bytes 3 [h.pfcFlags] ∧ At bytes 4 [h.packedDrep.b0] ∧
      At bytes 5 [h.packedDrep.b1] ∧ At bytes 6 [h.packedDrep.b2] ∧ At bytes 7 [h.packedDrep.b3] ∧
      At bytes 8 (u16Bytes h.byteOrder h.fragLength) ∧
      At bytes 10 (u16Bytes h.byteOrder h.authLength) ∧
      At bytes 12 (u32Bytes h.byteOrder h.callId) := by
  simp only [encode, PackedDrep.toList, at_append, at_cons_cons, List.length_cons, List.length_nil,
    List.length_append, length_u16Bytes, Nat.reduceAdd, and_assoc]

/-- The headers `decode` accepts. -/
structure Readable (h : PduHeader) : Prop where
  version : h.rpcVers = RPC_VERSION
  drep : DataRepresentation.fromBytes h.packedDrep = .ok h.byteOrder

theorem byteOrder_of_fromBytes {h : PduHeader} {o : ByteOrder}
    (ho : DataRepresentation.fromBytes h.packedDrep = .ok o) : h.byteOrder = o := by
  simp only [byteOrder, ho]

/-- The headers the crate builds. -/
theorem readable_of_windowsDefault (hd : WindowsDefaultLittle) {h : PduHeader}
    (hv : h.rpcVers = RPC_VERSION) (hp : h.packedDrep = DataRepresentation.windowsDefault) :
    h.Readable := by
  have ho : DataRepresentation.fromBytes h.packedDrep = .ok .little := by
    rw [hp]
    exact hd
  exact ⟨hv, by rw [byteOrder_of_fromBytes ho]; exact ho⟩

theorem decode_eq_ok {bytes : List UInt8} {h : PduHeader} :
    decode bytes = .ok h ↔ At bytes 0 h.encode ∧ h.Readable := by
  simp only [decode, bind_eq_ok, failIf_eq_ok, index_eq_ok, mapErr_eq_ok, readU16_eq_ok,
    readU32_eq_ok, pure_eq_ok, Except.ok.injEq]
  constructor
  · rintro ⟨-, -, d0, h4, d1, h5, d2, h6, d3, h7, o, ho, v, h0, m, h1, t, h2, ptype, ht, f, h3,
      frag, ⟨-, h8⟩, auth, ⟨-, h10⟩, call, ⟨-, h12⟩, -, hv, rfl⟩
    have hbo : byteOrder ⟨v, m, ptype, f, ⟨d0, d1, d2, d3⟩, frag, auth, call⟩ = o :=
      byteOrder_of_fromBytes ho
    refine ⟨at_encode.mpr ⟨h0, h1, ?_, h3, h4, h5, h6, h7, ?_⟩, Classical.not_not.mp hv, ?_⟩
    · rw [← PduType.tryFrom_eq_ok ht]
      exact h2
    · rw [hbo]
      exact ⟨h8, h10, h12⟩
    · rw [hbo]
      exact ho
  · rintro ⟨h, hv, hd⟩
    have hl := h.length_le (Nat.zero_le _)
    rw [length_encode] at hl
    obtain ⟨h0, h1, h2, h3, h4, h5, h6, h7, h8, h10, h12⟩ := at_encode.mp h
    have h16 : headerLen = 16 := rfl
    exact ⟨(), by rw [h16]; omega, _, h4, _, h5, _, h6, _, h7, _, hd, _, h0, _, h1, _, h2, _,
      PduType.tryFrom_toUInt8 _, _, h3, _, ⟨by omega, h8⟩, _, ⟨by omega, h10⟩, _, ⟨by omega, h12⟩, (),
      Classical.not_not.mpr hv, rfl⟩

theorem returns_decode (bytes : List UInt8) : Returns (decode bytes) := by
  refine .bind (.failIf _ _) fun _ hl => ?_
  have h16 : headerLen = 16 := rfl
  rw [failIf_eq_ok, h16] at hl
  refine .bind (.index (by omega)) fun _ _ => .bind (.index (by omega)) fun _ _ => ?_
  refine .bind (.index (by omega)) fun _ _ => .bind (.index (by omega)) fun _ _ => ?_
  refine .bind (.mapErr _ _) fun _ _ => .bind (.index (by omega)) fun _ _ => ?_
  refine .bind (.index (by omega)) fun _ _ => .bind (.index (by omega)) fun _ _ => ?_
  refine .bind (PduType.returns_tryFrom _) fun _ _ => .bind (.index (by omega)) fun _ _ => ?_
  refine .bind (.readU16 (by omega)) fun _ _ => .bind (.readU16 (by omega)) fun _ _ => ?_
  exact .bind (.readU32 (by omega)) fun _ _ => .bind (.failIf _ _) fun _ _ => .ok _

end PduHeader

/-! ## The bodies -/

namespace BindPdu

theorem length_encode (b : BindPdu) : b.encode.length = 8 + b.presentationContextList.length := by
  simp only [encode, List.length_append, length_u16Bytes, length_u32Bytes]

/-- The fields of a bind at their offsets. -/
theorem eq_encode_iff {bytes : List UInt8} {b : BindPdu} :
    bytes = b.encode ↔ 8 ≤ bytes.length ∧ At bytes 0 (u16Bytes .little b.maxXmitFrag) ∧
      At bytes 2 (u16Bytes .little b.maxRecvFrag) ∧ At bytes 4 (u32Bytes .little b.assocGroupId) ∧
      bytes.drop 8 = b.presentationContextList := by
  rw [encode, eq_append_iff]
  simp only [at_append, List.length_append, length_u16Bytes, length_u32Bytes, Nat.reduceAdd, and_assoc]

/-- Every body of at least 8 bytes is the encoding of one bind. -/
theorem decode_eq_ok {bytes : List UInt8} {b : BindPdu} : decode bytes = .ok b ↔ bytes = b.encode := by
  simp only [decode, bind_eq_ok, failIf_eq_ok, readU16_eq_ok, readU32_eq_ok, sliceFrom_eq_ok,
    pure_eq_ok, Except.ok.injEq, eq_encode_iff]
  constructor
  · rintro ⟨-, -, x, ⟨-, h0⟩, r, ⟨-, h2⟩, g, ⟨-, h4⟩, l, ⟨hl, h8⟩, rfl⟩
    exact ⟨hl, h0, h2, h4, h8⟩
  · rintro ⟨hl, h0, h2, h4, h8⟩
    exact ⟨(), by omega, _, ⟨by omega, h0⟩, _, ⟨by omega, h2⟩, _, ⟨by omega, h4⟩, _, ⟨hl, h8⟩, rfl⟩

theorem returns_decode (bytes : List UInt8) : Returns (decode bytes) := by
  refine .bind (.failIf _ _) fun _ hl => ?_
  rw [failIf_eq_ok] at hl
  refine .bind (.readU16 (by omega)) fun _ _ => .bind (.readU16 (by omega)) fun _ _ => ?_
  exact .bind (.readU32 (by omega)) fun _ _ => .bind (.sliceFrom (by omega)) fun _ _ => .ok _

end BindPdu

namespace ResponsePdu

theorem length_wire (o : ByteOrder) (r : ResponsePdu) (reserved : UInt8) :
    (Wire.response o r reserved).length = 8 + r.stubData.length := by
  simp only [Wire.response, List.length_append, length_u16Bytes, length_u32Bytes, List.length_cons,
    List.length_nil]

theorem length_encode (r : ResponsePdu) : r.encode.length = 8 + r.stubData.length :=
  length_wire .little r 0

/-- The fields of a response at their offsets. -/
theorem eq_wire_iff {bytes : List UInt8} {o : ByteOrder} {r : ResponsePdu} {reserved : UInt8} :
    bytes = Wire.response o r reserved ↔ 8 ≤ bytes.length ∧ At bytes 0 (u32Bytes o r.allocHint) ∧
      At bytes 4 (u16Bytes o r.ctxId) ∧ At bytes 6 [r.cancelCount] ∧ At bytes 7 [reserved] ∧
      bytes.drop 8 = r.stubData := by
  rw [Wire.response, eq_append_iff]
  simp only [at_append, at_cons_cons, List.length_append, length_u16Bytes, length_u32Bytes,
    List.length_cons, List.length_nil, Nat.reduceAdd, and_assoc]

/-- A response body is the little-endian wire form of the response, with any
reserved byte. -/
theorem decode_eq_ok {bytes : List UInt8} {r : ResponsePdu} :
    decode bytes = .ok r ↔ ∃ reserved, bytes = Wire.response .little r reserved := by
  simp only [decode, bind_eq_ok, failIf_eq_ok, readU16_eq_ok, readU32_eq_ok, sliceFrom_eq_ok,
    index_eq_ok, pure_eq_ok, Except.ok.injEq, eq_wire_iff]
  constructor
  · rintro ⟨-, -, a, ⟨-, h0⟩, c, ⟨-, h4⟩, n, h6, s, ⟨hl, h8⟩, rfl⟩
    obtain ⟨reserved, h7⟩ := exists_at_singleton (show 7 < bytes.length by omega)
    exact ⟨reserved, hl, h0, h4, h6, h7, h8⟩
  · rintro ⟨reserved, hl, h0, h4, h6, -, h8⟩
    exact ⟨(), by omega, _, ⟨by omega, h0⟩, _, ⟨by omega, h4⟩, _, h6, _, ⟨hl, h8⟩, rfl⟩

theorem returns_decode (bytes : List UInt8) : Returns (decode bytes) := by
  refine .bind (.failIf _ _) fun _ hl => ?_
  rw [failIf_eq_ok] at hl
  refine .bind (.readU32 (by omega)) fun _ _ => .bind (.readU16 (by omega)) fun _ _ => ?_
  exact .bind (.index (by omega)) fun _ _ => .bind (.sliceFrom (by omega)) fun _ _ => .ok _

end ResponsePdu

namespace FaultPdu

theorem length_wire (o : ByteOrder) (f : FaultPdu) (reserved : UInt8) :
    (Wire.fault o f reserved).length = 12 + f.stubData.length := by
  simp only [Wire.fault, List.length_append, length_u16Bytes, length_u32Bytes, List.length_cons,
    List.length_nil]

theorem length_encode (f : FaultPdu) : f.encode.length = 12 + f.stubData.length :=
  length_wire .little f 0

/-- The fields of a fault at their offsets. -/
theorem eq_wire_iff {bytes : List UInt8} {o : ByteOrder} {f : FaultPdu} {reserved : UInt8} :
    bytes = Wire.fault o f reserved ↔ 12 ≤ bytes.length ∧ At bytes 0 (u32Bytes o f.allocHint) ∧
      At bytes 4 (u16Bytes o f.ctxId) ∧ At bytes 6 [f.cancelCount] ∧ At bytes 7 [reserved] ∧
      At bytes 8 (u32Bytes o f.status) ∧ bytes.drop 12 = f.stubData := by
  rw [Wire.fault, eq_append_iff]
  simp only [at_append, at_cons_cons, List.length_append, length_u16Bytes, length_u32Bytes,
    List.length_cons, List.length_nil, Nat.reduceAdd, and_assoc]

/-- A fault body is the little-endian wire form of the fault, with any
reserved byte. -/
theorem decode_eq_ok {bytes : List UInt8} {f : FaultPdu} :
    decode bytes = .ok f ↔ ∃ reserved, bytes = Wire.fault .little f reserved := by
  simp only [decode, bind_eq_ok, failIf_eq_ok, readU16_eq_ok, readU32_eq_ok, sliceFrom_eq_ok,
    index_eq_ok, pure_eq_ok, Except.ok.injEq, eq_wire_iff]
  constructor
  · rintro ⟨-, -, a, ⟨-, h0⟩, c, ⟨-, h4⟩, n, h6, st, ⟨-, h8⟩, s, ⟨hl, h12⟩, rfl⟩
    obtain ⟨reserved, h7⟩ := exists_at_singleton (show 7 < bytes.length by omega)
    exact ⟨reserved, hl, h0, h4, h6, h7, h8, h12⟩
  · rintro ⟨reserved, hl, h0, h4, h6, -, h8, h12⟩
    exact ⟨(), by omega, _, ⟨by omega, h0⟩, _, ⟨by omega, h4⟩, _, h6, _, ⟨by omega, h8⟩, _,
      ⟨hl, h12⟩, rfl⟩

theorem returns_decode (bytes : List UInt8) : Returns (decode bytes) := by
  refine .bind (.failIf _ _) fun _ hl => ?_
  rw [failIf_eq_ok] at hl
  refine .bind (.readU32 (by omega)) fun _ _ => .bind (.readU16 (by omega)) fun _ _ => ?_
  refine .bind (.index (by omega)) fun _ _ => .bind (.readU32 (by omega)) fun _ _ => ?_
  exact .bind (.sliceFrom (by omega)) fun _ _ => .ok _

end FaultPdu

namespace RequestPdu

variable [UuidCrate]

theorem returns_decode (bytes : List UInt8) (hasObject : Bool) :
    Returns (decode bytes hasObject) := by
  refine .bind (.failIf _ _) fun _ hl => ?_
  rw [failIf_eq_ok] at hl
  cases hasObject with
  | false =>
    simp only [Bool.false_eq_true, if_false] at hl ⊢
    refine .bind (.ok _) fun _ _ => .bind (.readU32 (by omega)) fun _ _ => ?_
    refine .bind (.readU16 (by omega)) fun _ _ => .bind (.readU16 (by omega)) fun _ _ => ?_
    exact .bind (.sliceFrom (by omega)) fun _ _ => .ok _
  | true =>
    simp only [if_true] at hl ⊢
    refine .bind (.slice (by omega) (by omega)) fun _ _ => .bind (.okOr _ _) fun _ _ => ?_
    refine .bind (.ok _) fun _ _ => .bind (.readU32 (by omega)) fun _ _ => ?_
    refine .bind (.readU16 (by omega)) fun _ _ => .bind (.readU16 (by omega)) fun _ _ => ?_
    exact .bind (.sliceFrom (by omega)) fun _ _ => .ok _

/-- The bytes of the object, if the request has one. -/
def objectBytes (r : RequestPdu) : List UInt8 :=
  match r.object with
  | some object => UuidCrate.asBytes object
  | none => []

theorem length_objectBytes (r : RequestPdu) :
    r.objectBytes.length = if r.object.isSome then 16 else 0 := by
  unfold objectBytes
  cases r.object with
  | none => rfl
  | some object => exact UuidCrate.length_asBytes object

theorem length_encode (r : RequestPdu) :
    r.encode.length = 8 + r.objectBytes.length + r.stubData.length := by
  show (_ ++ _ ++ _ ++ r.objectBytes ++ _).length = _
  simp only [List.length_append, length_u32Bytes, length_u16Bytes]

/-- The fields of a request at their offsets. -/
theorem eq_encode_iff {bytes : List UInt8} {r : RequestPdu} :
    bytes = r.encode ↔ 8 + r.objectBytes.length ≤ bytes.length ∧
      At bytes 0 (u32Bytes .little r.allocHint) ∧ At bytes 4 (u16Bytes .little r.ctxId) ∧
      At bytes 6 (u16Bytes .little r.opnum) ∧ At bytes 8 r.objectBytes ∧
      bytes.drop (8 + r.objectBytes.length) = r.stubData := by
  show bytes = _ ++ _ ++ _ ++ r.objectBytes ++ _ ↔ _
  rw [eq_append_iff]
  simp only [at_append, List.length_append, length_u16Bytes, length_u32Bytes, Nat.reduceAdd, and_assoc]

/-- The requests with and those without an object: their bodies are their
encodings. -/
theorem decode_eq_ok {bytes : List UInt8} {hasObject : Bool} {r : RequestPdu} :
    decode bytes hasObject = .ok r ↔ bytes = r.encode ∧ r.object.isSome = hasObject := by
  cases hasObject with
  | false =>
    simp only [decode, bind_eq_ok, failIf_eq_ok, readU16_eq_ok, readU32_eq_ok, sliceFrom_eq_ok,
      pure_eq_ok, Except.ok.injEq, Bool.false_eq_true, if_false, Nat.add_zero, exists_eq_left',
      Option.isSome_eq_false_iff, Option.isNone_iff_eq_none]
    constructor
    · rintro ⟨-, -, a, ⟨-, h0⟩, c, ⟨-, h4⟩, n, ⟨-, h6⟩, s, ⟨hl, h8⟩, rfl⟩
      exact ⟨eq_encode_iff.mpr ⟨hl, h0, h4, h6, at_nil _ _, h8⟩, rfl⟩
    · rintro ⟨hbytes, ho⟩
      obtain ⟨a, c, n, object, s⟩ := r
      cases ho
      obtain ⟨hl, h0, h4, h6, -, h8⟩ := eq_encode_iff.mp hbytes
      have hl : 8 ≤ bytes.length := hl
      exact ⟨(), by omega, _, ⟨by omega, h0⟩, _, ⟨by omega, h4⟩, _, ⟨by omega, h6⟩, _, ⟨hl, h8⟩, rfl⟩
  | true =>
    simp only [decode, bind_eq_ok, failIf_eq_ok, readU16_eq_ok, readU32_eq_ok, sliceFrom_eq_ok,
      pure_eq_ok, Except.ok.injEq, if_true, slice_eq_ok, okOr_eq_ok, Nat.reduceAdd, exists_eq_left']
    constructor
    · rintro ⟨-, -, ob, ⟨-, -, hob, h8⟩, uuid, huuid, a, ⟨-, h0⟩, c, ⟨-, h4⟩, n, ⟨-, h6⟩, s,
        ⟨hl, h24⟩, rfl⟩
      have hbytes := UuidCrate.asBytes_fromSlice ob hob
      rw [huuid] at hbytes
      obtain rfl : UuidCrate.asBytes uuid = ob := Option.some.inj hbytes
      have h16 : (objectBytes ⟨a, c, n, some uuid, s⟩).length = 16 := hob
      exact ⟨eq_encode_iff.mpr ⟨by rw [h16]; exact hl, h0, h4, h6, h8, by rw [h16]; exact h24⟩, rfl⟩
    · rintro ⟨hbytes, ho⟩
      obtain ⟨a, c, n, object, s⟩ := r
      obtain ⟨uuid, rfl⟩ := Option.isSome_iff_exists.mp ho
      obtain ⟨hl, h0, h4, h6, h8, h24⟩ := eq_encode_iff.mp hbytes
      have h16 : (objectBytes ⟨a, c, n, some uuid, s⟩).length = 16 := UuidCrate.length_asBytes uuid
      rw [h16] at hl h24
      exact ⟨(), by omega, _, ⟨by omega, by omega, h16, h8⟩, uuid, UuidCrate.fromSlice_asBytes uuid,
        _, ⟨by omega, h0⟩, _, ⟨by omega, h4⟩, _, ⟨by omega, h6⟩, _, ⟨by omega, h24⟩, rfl⟩

end RequestPdu

end Rpce
