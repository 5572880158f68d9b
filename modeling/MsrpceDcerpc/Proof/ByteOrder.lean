import MsrpceDcerpc.Proof.Calls

/-!
# The byte order of a body

The common header is read in the byte order its DREP declares, and every body
little-endian. `declared_order_iff` says of a response, a fault and a bind ack
whose sender wrote the body in the declared order when the client reads the
values that were written. The object of a request is the one field that is
neither: it is written and read big-endian, and `object_order_iff` says which
UUIDs it carries in the order of the syntax identifiers.
-/

namespace Rpce

open Rust Endian Segment

variable {T A : Type}

/-! ## Responses and faults -/

/-- A response as it is read where it was written in the order `o`. -/
def ResponsePdu.reread (o : ByteOrder) (r : ResponsePdu) : ResponsePdu :=
  { r with allocHint := reread32 o r.allocHint, ctxId := reread16 o r.ctxId }

theorem ResponsePdu.decode_wire (o : ByteOrder) (r : ResponsePdu) (reserved : UInt8) :
    decode (Wire.response o r reserved) = .ok (r.reread o) := by
  refine decode_eq_ok.mpr ⟨reserved, ?_⟩
  simp only [Wire.response, reread, u16Bytes_reread, u32Bytes_reread]

/-- A fault as it is read where it was written in the order `o`. -/
def FaultPdu.reread (o : ByteOrder) (f : FaultPdu) : FaultPdu :=
  { f with
    allocHint := reread32 o f.allocHint, ctxId := reread16 o f.ctxId, status := reread32 o f.status }

theorem FaultPdu.decode_wire (o : ByteOrder) (f : FaultPdu) (reserved : UInt8) :
    decode (Wire.fault o f reserved) = .ok (f.reread o) := by
  refine decode_eq_ok.mpr ⟨reserved, ?_⟩
  simp only [Wire.fault, reread, u16Bytes_reread, u32Bytes_reread]

/-! ## Bind acks -/

section Ack

variable [UuidCrate]

theorem length_wire_result (o : ByteOrder) (r : PresentationResult) :
    (Wire.result o r).length = 24 := by
  have huuid : (Wire.uuid o r.transferSyntax.uuid).length = 16 := by
    cases o with
    | little => exact UuidCrate.length_toBytesLe _
    | big => exact UuidCrate.length_asBytes _
  simp only [Wire.result, Wire.syntaxId, List.length_append, length_u16Bytes, length_u32Bytes, huuid]

/-- The integers of a bind ack have the same bytes in both orders. -/
structure BindAckPdu.Symmetric (ack : BindAckPdu) : Prop where
  maxXmitFrag : Symmetric16 ack.maxXmitFrag
  maxRecvFrag : Symmetric16 ack.maxRecvFrag
  assocGroupId : Symmetric32 ack.assocGroupId
  secondaryAddrLen : Symmetric16 (UInt16.ofNat ack.secondaryAddr.length)
  results : ∀ r ∈ ack.results, Wire.result .big r = Wire.result .little r

theorem Wire.bindAck_big_iff {ack : BindAckPdu} (filler : AckFiller ack) :
    (∃ filler', bindAck .big ack filler = bindAck .little ack filler') ↔ ack.Symmetric := by
  constructor
  · rintro ⟨filler', h⟩
    simp only [bindAck, List.append_assoc] at h
    obtain ⟨hx, h⟩ := List.append_inj h (by simp only [length_u16Bytes])
    obtain ⟨hr, h⟩ := List.append_inj h (by simp only [length_u16Bytes])
    obtain ⟨hg, h⟩ := List.append_inj h (by simp only [length_u32Bytes])
    obtain ⟨hs, h⟩ := List.append_inj h (by simp only [length_u16Bytes])
    obtain ⟨-, h⟩ := List.append_inj h rfl
    have hpad : filler.pad.length = filler'.pad.length := by
      have h₁ := filler.aligned
      have h₂ := filler'.aligned
      have h₃ := filler.pad_lt
      have h₄ := filler'.pad_lt
      omega
    obtain ⟨-, h⟩ := List.append_inj h hpad
    obtain ⟨-, h⟩ := List.append_inj h rfl
    obtain ⟨-, h⟩ := List.append_inj h (by rw [filler.length_reserved, filler'.length_reserved])
    exact ⟨hx, hr, hg, hs,
      Segment.forall_mem_eq_of_flatMap_eq (fun r => by rw [length_wire_result, length_wire_result]) h⟩
  · intro h
    have hresults : ack.results.flatMap (result .big) = ack.results.flatMap (result .little) :=
      List.flatMap_congr h.results
    refine ⟨filler, ?_⟩
    rw [bindAck, h.maxXmitFrag, h.maxRecvFrag, h.assocGroupId, h.secondaryAddrLen, hresults]
    rfl

/-- A bind ack is read as it was written if its integers have the same bytes in
the order of the sender and little-endian. -/
theorem BindAckPdu.decode_wire_iff {ack : BindAckPdu} (hc : Wire.Countable ack) (o : ByteOrder)
    (filler : Wire.AckFiller ack) :
    decode (Wire.bindAck o ack filler) = .ok ack ↔ o = .little ∨ ack.Symmetric := by
  rw [decode_eq_ok, and_iff_right hc]
  cases o with
  | little => exact iff_of_true ⟨filler, rfl⟩ (.inl rfl)
  | big => exact (Wire.bindAck_big_iff filler).trans (or_iff_right (by decide)).symm

end Ack

/-! ## UUIDs -/

/-- The three integer fields of a UUID have the same bytes in both orders. -/
structure FieldsSymmetric (bs : List UInt8) : Prop where
  timeLow : (bs.take 4).reverse = bs.take 4
  timeMid : ((bs.drop 4).take 2).reverse = (bs.drop 4).take 2
  timeHigh : ((bs.drop 6).take 2).reverse = (bs.drop 6).take 2

/-- The fields of a UUID that `swapFields` reverses, and the rest. -/
theorem swapFields_eq : ∀ {bs : List UInt8}, 8 ≤ bs.length →
    swapFields bs = (bs.take 4).reverse ++ ((bs.drop 4).take 2).reverse ++
      ((bs.drop 6).take 2).reverse ++ bs.drop 8
  | _ :: _ :: _ :: _ :: _ :: _ :: _ :: _ :: _, _ => rfl

theorem swapFields_eq_self_iff {bs : List UInt8} (hl : 8 ≤ bs.length) :
    swapFields bs = bs ↔ FieldsSymmetric bs := by
  have hfields : bs = bs.take 4 ++ (bs.drop 4).take 2 ++ (bs.drop 6).take 2 ++ bs.drop 8 := by
    rw [← List.drop_drop (i := 2) (j := 4), ← List.drop_drop (i := 2) (j := 6),
      ← List.drop_drop (i := 2) (j := 4)]
    simp only [List.append_assoc, List.take_append_drop]
  rw [swapFields_eq hl]
  constructor
  · intro h
    obtain ⟨h, -⟩ := List.append_inj' (h.trans hfields) rfl
    obtain ⟨h, h₃⟩ := List.append_inj' h List.length_reverse
    obtain ⟨h₁, h₂⟩ := List.append_inj' h List.length_reverse
    exact ⟨h₁, h₂, h₃⟩
  · rintro ⟨h₁, h₂, h₃⟩
    rw [h₁, h₂, h₃]
    exact hfields.symm

section Object

variable [UuidCrate]

/-- The 16 bytes of the object in a request. -/
theorem RequestPdu.take_drop_encode {r : RequestPdu} {u : Uuid} (ho : r.object = some u) :
    (r.encode.drop 8).take 16 = UuidCrate.asBytes u := by
  obtain ⟨-, -, -, -, hat, -⟩ := eq_encode_iff.mp (rfl : r.encode = r.encode)
  have hobject : r.objectBytes = UuidCrate.asBytes u := by rw [objectBytes, ho]
  rw [at_iff_take, hobject, UuidCrate.length_asBytes] at hat
  exact hat

theorem SyntaxId.take_encode (s : SyntaxId) : s.encode.take 16 = UuidCrate.toBytesLe s.uuid := by
  rw [encode, List.take_append_of_le_length (UuidCrate.length_toBytesLe _).ge,
    List.take_of_length_le (UuidCrate.length_toBytesLe _).le]

/-- A request is decoded with the UUID that has the 16 bytes after its fields,
as `as_bytes` writes it. -/
theorem RequestPdu.exists_decode {fixed bs : List UInt8} (hfixed : fixed.length = 8)
    (hbs : bs.length = 16) (stub : List UInt8) : ∃ r u, decode (fixed ++ bs ++ stub) true = .ok r ∧
      r.object = some u ∧ UuidCrate.asBytes u = bs := by
  obtain ⟨u, hu, rfl⟩ := Option.map_eq_some_iff.mp (UuidCrate.asBytes_fromSlice bs hbs)
  obtain ⟨allocHint, h0⟩ := exists_at_word (W := UInt32) .little (show 0 + 4 ≤ fixed.length by omega)
  obtain ⟨ctxId, h4⟩ := exists_at_word (W := UInt16) .little (show 4 + 2 ≤ fixed.length by omega)
  obtain ⟨opnum, h6⟩ := exists_at_word (W := UInt16) .little (show 6 + 2 ≤ fixed.length by omega)
  have hfields : fixed = u32Bytes .little allocHint ++ u16Bytes .little ctxId ++ u16Bytes .little opnum := by
    refine At.eq_of_length ?_ ?_
    · rw [at_append, at_append]
      exact ⟨⟨h0, h4⟩, h6⟩
    · simp only [List.length_append, length_u16Bytes, length_u32Bytes, hfixed, Nat.reduceAdd, le_refl]
  refine ⟨⟨allocHint, ctxId, opnum, some u, stub⟩, u, ?_, rfl, rfl⟩
  exact decode_eq_ok.mpr ⟨by rw [hfields]; rfl, rfl⟩

/-- A syntax identifier is decoded with the UUID that has its first 16 bytes,
as `to_bytes_le` writes it. -/
theorem SyntaxId.exists_decode {bs version : List UInt8} (hbs : bs.length = 16)
    (hversion : 4 ≤ version.length) : ∃ s, decode (bs ++ version) = .ok s ∧
      UuidCrate.toBytesLe s.uuid = bs := by
  obtain ⟨v, hv⟩ := exists_at_word (W := UInt32) .little (show 0 + 4 ≤ version.length by omega)
  have hu : UuidCrate.toBytesLe (UuidCrate.fromBytesLe bs) = bs :=
    UuidCrate.toBytesLe_fromBytesLe bs hbs
  refine ⟨⟨UuidCrate.fromBytesLe bs, v⟩, ?_, hu⟩
  have hat : At (bs ++ version) (0 + bs.length) (u32Bytes .little v) := by
    rw [at_append_right (Nat.zero_add _).ge, Nat.zero_add, Nat.sub_self]
    exact hv
  rw [decode_eq_ok, encode, hu, at_append]
  exact ⟨at_zero_append _ _, hat⟩

/-- One UUID in both orders. -/
theorem asBytes_eq_toBytesLe_iff (u : Uuid) :
    UuidCrate.asBytes u = UuidCrate.toBytesLe u ↔ FieldsSymmetric (UuidCrate.asBytes u) := by
  rw [UuidCrate.toBytesLe_eq, eq_comm]
  exact swapFields_eq_self_iff (by rw [UuidCrate.length_asBytes]; omega)

/-- The UUIDs that one list of bytes is in the two orders. -/
theorem eq_iff_of_bytes {u u' : Uuid} {bs : List UInt8} (hu : UuidCrate.asBytes u = bs)
    (hu' : UuidCrate.toBytesLe u' = bs) : u = u' ↔ FieldsSymmetric bs := by
  subst hu
  rw [← asBytes_eq_toBytesLe_iff]
  constructor
  · rintro rfl
    exact hu'.symm
  · intro h
    rw [← UuidCrate.fromBytesLe_toBytesLe u, ← h, ← hu', UuidCrate.fromBytesLe_toBytesLe]

/-- **The order of UUIDs.** The object of a request has the bytes of its UUID
in a syntax identifier, and 16 bytes are the same UUID as an object and in a
syntax identifier, exactly if its integer fields are the same in both orders:
the object is written and read in big-endian order. -/
theorem object_order_iff [DataRepresentation] :
    (∀ (u : Uuid) (r : RequestPdu), r.object = some u →
      (∀ version, (r.encode.drop 8).take 16 = (SyntaxId.encode ⟨u, version⟩).take 16 ↔
        FieldsSymmetric (UuidCrate.asBytes u)) ∧
      ∀ callId pfcFlags packet,
        PduPacket.fromRequestWithFlags callId pfcFlags r = .ok packet → WindowsDefaultLittle →
        packet.body = r.encode ∧
        ((packet.body.drop 8).take 16 = Wire.uuid packet.header.byteOrder u ↔
          FieldsSymmetric (UuidCrate.asBytes u))) ∧
    ∀ bs fixed stub version : List UInt8, bs.length = 16 → fixed.length = 8 → 4 ≤ version.length →
      ((∃ r s, RequestPdu.decode (fixed ++ bs ++ stub) true = .ok r ∧
          SyntaxId.decode (bs ++ version) = .ok s ∧ r.object = some s.uuid) ↔
        FieldsSymmetric bs) := by
  refine ⟨fun u r ho => ⟨fun version => ?_, fun callId pfcFlags packet hbuilt hd => ?_⟩, ?_⟩
  · rw [RequestPdu.take_drop_encode ho, SyntaxId.take_encode]
    exact asBytes_eq_toBytesLe_iff u
  · obtain ⟨-, hpacket⟩ := PduPacket.fromBodyWithFlags_eq_ok.mp hbuilt
    have hbody : packet.body = r.encode := by rw [hpacket]; rfl
    have horder : packet.header.byteOrder = .little :=
      PduHeader.byteOrder_of_fromBytes (by rw [hpacket]; exact hd)
    refine ⟨hbody, ?_⟩
    rw [hbody, horder, RequestPdu.take_drop_encode ho]
    exact asBytes_eq_toBytesLe_iff u
  · intro bs fixed stub version hbs hfixed hversion
    obtain ⟨r, u, hr, ho, hu⟩ := RequestPdu.exists_decode hfixed hbs stub
    obtain ⟨s, hs, hle⟩ := SyntaxId.exists_decode hbs hversion
    rw [← eq_iff_of_bytes hu hle]
    constructor
    · rintro ⟨r', s', hr', hs', ho'⟩
      obtain rfl := Except.ok.inj (hr.symm.trans hr')
      obtain rfl := Except.ok.inj (hs.symm.trans hs')
      exact Option.some.inj (ho.symm.trans ho')
    · rintro rfl
      exact ⟨r, s, hr, hs, ho⟩

end Object

section

open Standard

/-- The bytes of a UUID whose integer fields are the same in both orders. -/
def symmetricBytes : List UInt8 :=
  [0x12, 0x34, 0x34, 0x12, 0xab, 0xab, 0xcd, 0xcd, 1, 2, 3, 4, 5, 6, 7, 8]

def symmetricUuid : Uuid := ⟨symmetricBytes, rfl⟩

/-- A request for the object of that name. -/
def symmetricObject : RequestPdu :=
  { allocHint := 3, ctxId := 1, opnum := 7, object := some symmetricUuid, stubData := [9, 8, 7] }

/-- That UUID has one order. -/
theorem object_order_iff_symmetric :
    (symmetricObject.encode.drop 8).take 16 = (SyntaxId.encode ⟨symmetricUuid, 2⟩).take 16 ∧
    (∃ packet, PduPacket.fromRequestWithFlags 1 0 symmetricObject = .ok packet ∧
      (packet.body.drop 8).take 16 = Wire.uuid packet.header.byteOrder symmetricUuid) ∧
    ∃ r s, RequestPdu.decode ([3, 0, 0, 0, 1, 0, 7, 0] ++ symmetricBytes ++ [9, 8, 7]) true = .ok r ∧
      SyntaxId.decode (symmetricBytes ++ [2, 0, 0, 0]) = .ok s ∧ r.object = some s.uuid := by
  have hsymmetric : FieldsSymmetric symmetricBytes := ⟨by decide, by decide, by decide⟩
  have hbuilt : PduPacket.fromRequestWithFlags 1 0 symmetricObject = .ok _ :=
    PduPacket.fromRequestWithFlags_eq (by decide)
  have horder := object_order_iff.1 symmetricUuid symmetricObject rfl
  exact ⟨(horder.1 2).mpr hsymmetric,
    ⟨_, hbuilt, (horder.2 1 0 _ hbuilt windowsDefaultLittle).2.mpr hsymmetric⟩,
    (object_order_iff.2 _ _ _ _ rfl rfl (by decide)).mpr hsymmetric⟩

/-- A request for the object that is named by the UUID of NDR32. -/
def ndr32Object : RequestPdu :=
  { allocHint := 0, ctxId := 0, opnum := 0, object := some TransferSyntax.ndr32.syntaxId.uuid,
    stubData := [] }

/-- One UUID has other bytes as an object than in its syntax identifier, and
these are read as another UUID there. -/
theorem ndr32Object_reordered :
    (ndr32Object.encode.drop 8).take 16 =
        [0x8a, 0x88, 0x5d, 0x04, 0x1c, 0xeb, 0x11, 0xc9, 0x9f, 0xe8, 0x08, 0x00, 0x2b, 0x10, 0x48, 0x60] ∧
      TransferSyntax.ndr32.syntaxId.encode.take 16 =
        [0x04, 0x5d, 0x88, 0x8a, 0xeb, 0x1c, 0xc9, 0x11, 0x9f, 0xe8, 0x08, 0x00, 0x2b, 0x10, 0x48, 0x60] ∧
      ∃ r s, RequestPdu.decode
          (ndr32Object.encode.take 8 ++ TransferSyntax.ndr32.syntaxId.encode.take 16) true = .ok r ∧
        SyntaxId.decode TransferSyntax.ndr32.syntaxId.encode = .ok s ∧ r.object ≠ some s.uuid := by
  refine ⟨by decide +kernel, by decide +kernel, ?_⟩
  exact ⟨{ ndr32Object with object := some (UuidCrate.fromU128 0x045d888aeb1cc9119fe808002b104860) },
    TransferSyntax.ndr32.syntaxId, by decide +kernel, SyntaxId.decode_encode _, by decide +kernel⟩

end

/-! ## The declared order -/

section Declared

variable [DataRepresentation] [UuidCrate] [RpcTransport T] [RpcAuthProvider A]

/-- A body in the declared byte order is read as it was written exactly if that
order is little-endian, or its integers have the same bytes in both orders. -/
theorem declared_order_iff {bytes : List UInt8} {packet : PduPacket} {o : ByteOrder}
    (hpacket : PduPacket.decode bytes = .ok packet)
    (ho : DataRepresentation.fromBytes packet.header.packedDrep = .ok o) :
    packet.header.byteOrder = o ∧
    (∀ response reserved, packet.body = Wire.response o response reserved →
      ((∃ r, ResponsePdu.decode packet.body = .ok r ∧ r.allocHint = response.allocHint ∧
          r.ctxId = response.ctxId) ↔
        o = .little ∨ Symmetric32 response.allocHint ∧ Symmetric16 response.ctxId)) ∧
    (∀ ack filler, Wire.Countable ack → packet.body = Wire.bindAck o ack filler →
      (BindAckPdu.decode packet.body = .ok ack ↔ o = .little ∨ ack.Symmetric)) ∧
    ∀ fault reserved, packet.header.ptype = .fault → packet.body = Wire.fault o fault reserved →
      ∀ (c c' : RpcClient T A) (call : Call A), CallStep c call c' →
        bytes ∈ received call.events → packet.header.callId = call.callId →
        (call.result = .error (.err (.fault fault.status)) ↔ o = .little ∨ Symmetric32 fault.status) := by
  refine ⟨PduHeader.byteOrder_of_fromBytes ho, ?_, ?_, ?_⟩
  · intro response reserved hbody
    rw [hbody, ResponsePdu.decode_wire, or_and_left, ← reread32_eq_iff, ← reread16_eq_iff]
    constructor
    · rintro ⟨r, hr, ha, hc⟩
      rw [← Except.ok.inj hr] at ha hc
      exact ⟨ha, hc⟩
    · rintro ⟨ha, hc⟩
      exact ⟨_, rfl, ha, hc⟩
  · intro ack filler hc hbody
    rw [hbody]
    exact BindAckPdu.decode_wire_iff hc o filler
  · intro fault reserved htype hbody c c' call hstep hmem hid
    have hresult := hstep.spec.fault bytes hmem packet _ hpacket (hid.trans hstep.callId) htype
      (hbody ▸ FaultPdu.decode_wire o fault reserved)
    rw [hresult, ← reread32_eq_iff]
    simp only [Except.error.injEq, Stop.err.injEq, Error.fault.injEq]
    rfl

end Declared

section

open Standard RpcClient

/-- A fault in the byte order of a big-endian server. -/
def bigFault : FaultPdu :=
  { allocHint := 0, ctxId := 0, cancelCount := 0, status := 0x1C010003, stubData := [] }

def bigFaultPacket : PduPacket := bigPacket .fault 1 (Wire.fault .big bigFault 0)

/-- A client that is sent a fault by a big-endian server. -/
def bigClient : RpcClient MemoryTransport FixedProvider :=
  newBound ⟨[bigFaultPacket.header.encode ++ bigFaultPacket.body], []⟩ 0

theorem decode_bigFaultPacket : PduPacket.decode (bigFaultPacket.header.encode ++ bigFaultPacket.body) =
    .ok bigFaultPacket := by decide +kernel

theorem exists_bigCall : ∃ c' call, CallStep bigClient call c' ∧ call.callId = 1 ∧
    bigFaultPacket.header.encode ++ bigFaultPacket.body ∈ received call.events ∧
    call.result = .error (.err (.fault 0x0300011C)) := by
  obtain ⟨events, hstep⟩ := CallStep.of_exec (c := bigClient) (r := .error (.err (.fault 0x0300011C)))
    1 0 [] (Prod.ext (by decide +kernel) rfl) (by decide)
  have hreceived : received events = [bigFaultPacket.header.encode ++ bigFaultPacket.body] :=
    (congrArg received hstep.trace).symm.trans (by decide +kernel)
  exact ⟨_, _, hstep, rfl, hreceived ▸ List.mem_singleton_self _, rfl⟩

/-- The status of that fault is not what its bytes say little-endian. -/
theorem bigClient_reads_other_status : ∃ c' call, CallStep bigClient call c' ∧
    call.result ≠ .error (.err (.fault 0x1C010003)) := by
  obtain ⟨c', call, hstep, hid, hmem, -⟩ := exists_bigCall
  have h := (declared_order_iff (T := MemoryTransport) (A := FixedProvider) decode_bigFaultPacket
    rfl).2.2.2 bigFault 0 rfl rfl bigClient c' call hstep hmem hid.symm
  exact ⟨c', call, hstep, fun hr => absurd (h.mp hr) (by decide)⟩

/-- `call_raw` returns the bytes of the status of a big-endian fault in the
wrong order. -/
theorem bigClient_status_reversed : ∃ c' call, CallStep bigClient call c' ∧
    DataRepresentation.fromBytes bigFaultPacket.header.packedDrep = .ok .big ∧
    PduPacket.decode (bigFaultPacket.header.encode ++ bigFaultPacket.body) = .ok bigFaultPacket ∧
    bigFaultPacket.body = Wire.fault .big bigFault 0 ∧
    bigFaultPacket.header.encode ++ bigFaultPacket.body ∈ received call.events ∧
    bigFault.status = 0x1C010003 ∧ call.result = .error (.err (.fault 0x0300011C)) := by
  obtain ⟨c', call, hstep, -, hmem, hresult⟩ := exists_bigCall
  exact ⟨c', call, hstep, rfl, decode_bigFaultPacket, rfl, hmem, rfl, hresult⟩

end

end Rpce
