import MsrpceDcerpc.Spec.Standard
import MsrpceDcerpc.Proof.Packet
import MsrpceDcerpc.Proof.Bind

/-!
# The codecs in both directions

What a reader of the wire can rely on, for the three formats with a body of
their own: the list of presentation contexts (`list_codec`), the bind ack
(`ack_codec`) and the typed PDUs inside a packet (`typed_pdus_survive`). What
the crate writes it reads back, and what it accepts is what it would have
written, up to the bytes that carry nothing. A PDU that is too large to be
written is reported, except for the lengths that overflow before `encode` is
called (`oversized_reported_iff`).
-/

namespace Rpce

open Rust Endian Segment

/-! ## Lists of contexts -/

section Contexts

variable [UuidCrate]

namespace PresentationContextList

/-- The offset `i` is that of the reserved byte of a context, in the bytes of
the contexts. -/
def ContextReserved (cs : List PresentationContext) (i : Nat) : Prop :=
  ∃ k < cs.length, i = contextsLen (cs.take k) + 3

instance (cs : List PresentationContext) (i : Nat) : Decidable (ContextReserved cs i) :=
  inferInstanceAs (Decidable (∃ k < _, _))

/-- The offset `i` is that of a reserved byte of a list: one of the three after
the count, or that of a context. -/
def Reserved (l : PresentationContextList) (i : Nat) : Prop :=
  1 ≤ i ∧ i < 4 ∨ 4 ≤ i ∧ ContextReserved l.contexts (i - 4)

instance (l : PresentationContextList) (i : Nat) : Decidable (Reserved l i) :=
  inferInstanceAs (Decidable (_ ∨ _))

theorem contextReserved_cons {c : PresentationContext} {cs : List PresentationContext} {i : Nat} :
    ContextReserved (c :: cs) i ↔ i = 3 ∨ 24 + c.transferSyntaxes.length * 20 ≤ i ∧
      ContextReserved cs (i - (24 + c.transferSyntaxes.length * 20)) := by
  constructor
  · rintro ⟨k, hk, rfl⟩
    cases k with
    | zero => exact .inl rfl
    | succ k =>
      rw [List.take_succ_cons, contextsLen_cons]
      exact .inr ⟨by omega, k, Nat.lt_of_succ_lt_succ hk, by omega⟩
  · rintro (rfl | ⟨hle, k, hk, hi⟩)
    · exact ⟨0, Nat.succ_pos _, rfl⟩
    · refine ⟨k + 1, Nat.succ_lt_succ hk, ?_⟩
      rw [List.take_succ_cons, contextsLen_cons]
      omega

/-- A context with another reserved byte. -/
theorem getElem?_context (c : PresentationContext) (reserved : UInt8) (i : Nat) :
    (Wire.context .little c 0)[i]? = if i = 3 then some 0 else (Wire.context .little c reserved)[i]? := by
  have hcontext : ∀ r, Wire.context .little c r =
      (u16Bytes .little c.contextId ++ [UInt8.ofNat c.transferSyntaxes.length]) ++ [r] ++
        (c.abstractSyntax.encode ++ c.transferSyntaxes.flatMap SyntaxId.encode) := fun r => by
    simp only [Wire.context, PresentationContext.wire_syntaxId_little, List.append_assoc,
      List.cons_append, List.nil_append]
  rw [hcontext, hcontext, getElem?_replace (a := [reserved]) (b := [0]) i rfl, List.length_append,
    length_u16Bytes, List.length_singleton, List.length_singleton]
  by_cases hi : i = 3
  · rw [if_pos (by omega), if_pos hi, hi]
    rfl
  · rw [if_neg (by omega), if_neg hi]

/-- The bytes of contexts with other reserved bytes differ in these only. -/
theorem getElem?_wire (l : List (PresentationContext × UInt8)) (i : Nat) :
    (wire (l.map fun c => (c.1, 0)))[i]? =
      if ContextReserved (l.map Prod.fst) i then some 0 else (wire l)[i]? := by
  induction l generalizing i with
  | nil =>
    have hnone : ¬ ContextReserved [] i := fun ⟨k, hk, _⟩ => Nat.not_lt_zero k hk
    exact (if_neg hnone).symm
  | cons cr l ih =>
    obtain ⟨c, reserved⟩ := cr
    have hcons : ∀ r rest, wire ((c, r) :: rest) = Wire.context .little c r ++ wire rest :=
      fun _ _ => rfl
    have hlen := PresentationContext.length_context c
    rw [List.map_cons, List.map_cons, hcons, hcons]
    by_cases hi : i < 24 + c.transferSyntaxes.length * 20
    · have hiff : ContextReserved (c :: l.map Prod.fst) i ↔ i = 3 := by
        rw [contextReserved_cons]
        omega
      rw [List.getElem?_append_left (by rw [hlen]; exact hi),
        List.getElem?_append_left (by rw [hlen]; exact hi), getElem?_context c reserved,
        if_congr hiff rfl rfl]
    · have hiff : ContextReserved (c :: l.map Prod.fst) i ↔
          ContextReserved (l.map Prod.fst) (i - (24 + c.transferSyntaxes.length * 20)) := by
        rw [contextReserved_cons, or_iff_right (by omega), and_iff_right (by omega)]
      rw [List.getElem?_append_right (by rw [hlen]; omega),
        List.getElem?_append_right (by rw [hlen]; omega), hlen, hlen, ih, if_congr hiff rfl rfl]

/-- What `decode` does with its loop. -/
theorem decode_eq_ok_iff_loop {bytes : List UInt8} {l : PresentationContextList} :
    decode bytes = .ok l ↔ 4 ≤ bytes.length ∧ ∃ count, bytes[0]? = some count ∧
      decodeContexts bytes count.toNat 4 = .ok (l.contexts, bytes.length) := by
  obtain ⟨cs⟩ := l
  simp only [decode, bind_eq_ok, failIf_eq_ok, index_eq_ok, at_singleton, pure_eq_ok, Except.ok.injEq,
    Prod.exists, PresentationContextList.mk.injEq]
  constructor
  · rintro ⟨-, hl, count, h0, _, stop, hloop, -, hstop, rfl⟩
    rw [Classical.not_not.mp hstop] at hloop
    exact ⟨by omega, count, h0, hloop⟩
  · rintro ⟨hl, count, h0, hloop⟩
    exact ⟨(), by omega, count, h0, _, _, hloop, (), Classical.not_not.mpr rfl, rfl⟩

/-- No accepted byte string is the start of another. -/
theorem decode_append {bytes extra : List UInt8} {l l' : PresentationContextList}
    (h : decode bytes = .ok l) (h' : decode (bytes ++ extra) = .ok l') : extra = [] := by
  obtain ⟨hle, count, h0, hloop⟩ := decode_eq_ok_iff_loop.mp h
  obtain ⟨-, count', h0', hloop'⟩ := decode_eq_ok_iff_loop.mp h'
  rw [List.getElem?_append_left (by omega), h0] at h0'
  obtain rfl := Option.some.inj h0'
  -- the loop reads the same contexts from the longer string, and stops where it did
  obtain ⟨contexts, hfst, hlen, hcounted, hat, hstop⟩ := decodeContexts_eq_ok.mp hloop
  have hat' : At (bytes ++ extra) 4 (wire contexts) := by
    unfold At
    rw [List.drop_append_of_le_length hle]
    exact hat.trans (List.prefix_append _ _)
  have hloop'' := decodeContexts_eq_ok.mpr ⟨contexts, hfst, hlen, hcounted, hat', hstop⟩
  have hend := congrArg Prod.snd (Except.ok.inj (hloop'.symm.trans hloop''))
  rw [List.length_append] at hend
  exact List.length_eq_zero_iff.mp (Nat.add_eq_left.mp hend)

/-- **The context list codec, in both directions.** -/
theorem list_codec :
    (∀ l : PresentationContextList, l.contexts.length ≤ 255 →
      (∀ c ∈ l.contexts, c.transferSyntaxes.length ≤ 255) →
      ∃ bytes, l.encode = .ok bytes ∧ decode bytes = .ok l) ∧
    (∀ bytes l, decode bytes = .ok l → ∃ bytes', l.encode = .ok bytes' ∧
      bytes'.length = bytes.length ∧
      (∀ i, bytes'[i]? = if Reserved l i then some 0 else bytes[i]?) ∧
      decode bytes' = .ok l) ∧
    ∀ bytes extra l l', decode bytes = .ok l → decode (bytes ++ extra) = .ok l' → extra = [] := by
  refine ⟨fun l hlen hcounted => ?_, fun bytes l h => ?_, fun _ _ _ _ => decode_append⟩
  · have henc := encode_of_counted hcounted
    exact ⟨_, henc, decode_of_encode hlen henc⟩
  · obtain ⟨hlen, hcounted, r₀, r₁, r₂, contexts, hfst, rfl⟩ := decode_eq_ok.mp h
    have henc := encode_of_counted hcounted
    have hmap : l.contexts.map (fun c => (c, (0 : UInt8))) = contexts.map fun c => (c.1, 0) := by
      rw [← hfst, List.map_map]
      rfl
    rw [hmap] at henc
    refine ⟨_, henc, ?_, fun i => ?_, decode_of_encode hlen henc⟩
    · rw [List.length_append, List.length_append, length_wire, length_wire, List.map_map]
      rfl
    · by_cases hi : i < 4
      · have hiff : Reserved l i ↔ i ≠ 0 := by
          rw [Reserved, or_iff_left (by omega)]
          omega
        rw [List.getElem?_append_left hi, List.getElem?_append_left hi, if_congr hiff rfl rfl]
        match i, hi with
        | 0, _ | 1, _ | 2, _ | 3, _ => rfl
      · have hiff : Reserved l i ↔ ContextReserved l.contexts (i - 4) := by
          rw [Reserved, or_iff_right (by omega), and_iff_right (by omega)]
        rw [List.getElem?_append_right (Nat.not_lt.mp hi), List.getElem?_append_right (Nat.not_lt.mp hi),
          if_congr hiff rfl rfl, ← hfst]
        exact getElem?_wire contexts (i - 4)

end PresentationContextList

/-! ## Bind acks -/

/-- **The bind ack parser.** Every wire form of an ack is read as that ack,
whatever its padding and reserved bytes, and nothing else is accepted. -/
theorem BindAckPdu.ack_codec :
    (∀ ack : BindAckPdu, ack.secondaryAddr.length ≤ 65535 → ack.results.length ≤ 255 →
      ∀ filler, decode (Wire.bindAck .little ack filler) = .ok ack) ∧
    ∀ bytes ack, decode bytes = .ok ack →
      ack.secondaryAddr.length ≤ 65535 ∧ ack.results.length ≤ 255 ∧
        ∃ filler, bytes = Wire.bindAck .little ack filler := by
  constructor
  · intro ack hsec hresults filler
    exact decode_eq_ok.mpr ⟨⟨hsec, hresults⟩, filler, rfl⟩
  · intro bytes ack h
    obtain ⟨hc, hfiller⟩ := decode_eq_ok.mp h
    exact ⟨hc.secondaryAddr, hc.results, hfiller⟩

end Contexts

/-! ## Typed PDUs -/

theorem or_and_self (a b : UInt8) : (a ||| b) &&& b = b := by
  apply UInt8.eq_of_toBitVec_eq
  ext i hi
  simp only [UInt8.toBitVec_and, UInt8.toBitVec_or, BitVec.getElem_and, BitVec.getElem_or]
  cases b.toBitVec[i] <;> simp

/-- The bit of the object UUID, in flags that were given without it. -/
theorem hasObject_or [UuidCrate] {pfcFlags : UInt8} (h : pfcFlags &&& PFC_OBJECT_UUID = 0)
    (object : Option Uuid) :
    ((pfcFlags ||| (object.map fun _ => PFC_OBJECT_UUID).getD 0) &&& PFC_OBJECT_UUID != 0) =
      object.isSome := by
  cases object with
  | none =>
    rw [Option.map_none, Option.getD_none, UInt8.or_zero, h]
    rfl
  | some object =>
    rw [Option.map_some, Option.getD_some, or_and_self]
    rfl

section Typed

variable [DataRepresentation]

/-- `built` is a packet with this type, call id and these flags, and is encoded
and decoded again: the header is the one that was built, and `typed` reads
`pdu` from the body. -/
def Survives {P : Type} (built : Result PduPacket) (typed : PduPacket → Result P) (pdu : P)
    (ptype : PduType) (callId : UInt32) (pfcFlags : UInt8) : Prop :=
  ∃ packet bytes decoded, built = .ok packet ∧ packet.encode = .ok bytes ∧
    PduPacket.decode bytes = .ok decoded ∧ typed decoded = .ok pdu ∧
    decoded.header = packet.header ∧ decoded.header.ptype = ptype ∧
    decoded.header.callId = callId ∧ decoded.header.pfcFlags = pfcFlags

variable {P : Type} {typed : PduPacket → Result P} {pdu : P} {ptype : PduType} {callId : UInt32}
  {pfcFlags : UInt8} {body : List UInt8}

/-- A body that fits survives if its decoder reads it. -/
theorem survives_of_body (hd : WindowsDefaultLittle) (hl : 16 + body.length ≤ 65535)
    (htyped : typed (.ofBody ptype callId pfcFlags body) = .ok pdu) :
    Survives (PduPacket.fromBodyWithFlags ptype callId pfcFlags body) typed pdu ptype callId
      pfcFlags :=
  ⟨_, _, _, PduPacket.fromBodyWithFlags_eq hl, PduPacket.encode_ofBody hl,
    PduPacket.decode_frame hd hl, htyped, rfl, rfl, rfl, rfl⟩

variable [UuidCrate]

/-- The flags of a request: those given, and that of the object. -/
def requestFlags (pfcFlags : UInt8) (request : RequestPdu) : UInt8 :=
  if request.object.isSome then pfcFlags ||| PFC_OBJECT_UUID else pfcFlags

theorem survives_request (hd : WindowsDefaultLittle) {request : RequestPdu}
    (hl : request.encode.length ≤ 65519) (hflags : pfcFlags &&& PFC_OBJECT_UUID = 0) :
    Survives (PduPacket.fromRequestWithFlags callId pfcFlags request)
      (fun p => RequestPdu.decode p.body (p.header.pfcFlags &&& PFC_OBJECT_UUID != 0)) request
      .request callId (requestFlags pfcFlags request) := by
  have hgiven : (pfcFlags ||| (request.object.map fun _ => PFC_OBJECT_UUID).getD 0) =
      requestFlags pfcFlags request := by
    unfold requestFlags
    cases request.object with
    | none => exact UInt8.or_zero
    | some object => rfl
  have hobject := hasObject_or hflags request.object
  rw [hgiven] at hobject
  have htyped : RequestPdu.decode request.encode
      (requestFlags pfcFlags request &&& PFC_OBJECT_UUID != 0) = .ok request :=
    RequestPdu.decode_eq_ok.mpr ⟨rfl, hobject.symm⟩
  have hbuilt : PduPacket.fromRequestWithFlags callId pfcFlags request =
      PduPacket.fromBodyWithFlags .request callId (requestFlags pfcFlags request) request.encode :=
    hgiven ▸ rfl
  rw [hbuilt]
  exact survives_of_body hd (by omega) htyped

/-- **Typed PDUs survive the whole stack**: the constructor of the packet,
`encode`, `PduPacket::decode` and the decoder of the body. -/
theorem typed_pdus_survive (hd : WindowsDefaultLittle) (callId : UInt32) :
    (∀ bind : BindPdu, bind.encode.length ≤ 65519 →
      Survives (PduPacket.fromBind callId bind) (fun p => BindPdu.decode p.body) bind .bind callId
        (PFC_FIRST_FRAG ||| PFC_LAST_FRAG)) ∧
    (∀ request : RequestPdu, request.encode.length ≤ 65519 →
      (∀ pfcFlags, pfcFlags &&& PFC_OBJECT_UUID = 0 →
        Survives (PduPacket.fromRequestWithFlags callId pfcFlags request)
          (fun p => RequestPdu.decode p.body (p.header.pfcFlags &&& PFC_OBJECT_UUID != 0)) request
          .request callId (requestFlags pfcFlags request)) ∧
      Survives (PduPacket.fromRequest callId request)
        (fun p => RequestPdu.decode p.body (p.header.pfcFlags &&& PFC_OBJECT_UUID != 0)) request
        .request callId (requestFlags (PFC_FIRST_FRAG ||| PFC_LAST_FRAG) request)) ∧
    (∀ response : ResponsePdu, response.encode.length ≤ 65519 →
      (∀ pfcFlags, Survives (PduPacket.fromResponseWithFlags callId pfcFlags response)
        (fun p => ResponsePdu.decode p.body) response .response callId pfcFlags) ∧
      Survives (PduPacket.fromResponse callId response) (fun p => ResponsePdu.decode p.body) response
        .response callId (PFC_FIRST_FRAG ||| PFC_LAST_FRAG)) ∧
    ∀ fault : FaultPdu, fault.encode.length ≤ 65519 →
      Survives (PduPacket.fromFault callId fault) (fun p => FaultPdu.decode p.body) fault .fault callId
        (PFC_FIRST_FRAG ||| PFC_LAST_FRAG) := by
  refine ⟨fun bind hl => ?_, fun request hl => ?_, fun response hl => ?_, fun fault hl => ?_⟩
  · exact survives_of_body hd (by omega) (BindPdu.decode_eq_ok.mpr rfl)
  · exact ⟨fun pfcFlags hflags => survives_request hd hl hflags, survives_request hd hl rfl⟩
  · have hresponse : ∀ pfcFlags, Survives (PduPacket.fromResponseWithFlags callId pfcFlags response)
        (fun p => ResponsePdu.decode p.body) response .response callId pfcFlags := fun pfcFlags =>
      survives_of_body hd (by omega) (ResponsePdu.decode_eq_ok.mpr ⟨0, rfl⟩)
    exact ⟨hresponse, hresponse _⟩
  · exact survives_of_body hd (by omega) (FaultPdu.decode_eq_ok.mpr ⟨0, rfl⟩)

end Typed

section

open Standard

/-- A request with an object, and a flag that no other bit goes with. -/
theorem typed_pdus_survive_object : let request : RequestPdu :=
    { allocHint := 1, ctxId := 2, opnum := 3, object := some (UuidCrate.fromU128 7), stubData := [8] }
    Survives (PduPacket.fromRequestWithFlags 9 PFC_LAST_FRAG request)
      (fun p => RequestPdu.decode p.body (p.header.pfcFlags &&& PFC_OBJECT_UUID != 0)) request
      .request 9 (PFC_LAST_FRAG ||| PFC_OBJECT_UUID) :=
  ((typed_pdus_survive windowsDefaultLittle 9).2.1 _ (by decide)).1 PFC_LAST_FRAG rfl

end

/-! ## Oversized PDUs -/

section Oversized

variable [DataRepresentation]

/-- `built` is a packet, without an overflow, and `encode` returns its bytes if
`body` fits into a fragment and says that it is too large if it does not. -/
def Reported (built : Result PduPacket) (body : List UInt8) : Prop :=
  ∃ packet, built = .ok packet ∧
    (16 + body.length ≤ 65535 → ∃ bytes, packet.encode = .ok bytes) ∧
    (65535 < 16 + body.length →
      packet.encode = .error (.err (.invalidPdu "fragment is too large")))

/-- The length of a body, cast to `u16`, leaves room for that of the header. -/
def RoomForHeader (bodyLen : Nat) : Prop := bodyLen % 65536 < 65520

theorem reported_iff {ptype : PduType} {callId : UInt32} {pfcFlags : UInt8} {body : List UInt8} :
    Reported (PduPacket.fromBodyWithFlags ptype callId pfcFlags body) body ↔
      RoomForHeader body.length := by
  constructor
  · rintro ⟨packet, hbuilt, -⟩
    exact (PduPacket.fromBodyWithFlags_eq_ok.mp hbuilt).1
  · intro hroom
    exact ⟨_, PduPacket.fromBodyWithFlags_eq_ok.mpr ⟨hroom, rfl⟩,
      fun hl => ⟨_, PduPacket.encode_ofBody hl⟩, PduPacket.encode_ofBody_of_large⟩

/-- **Oversized PDUs** are built, and reported by `encode`, unless the length of
their body is one of the last 16 below a multiple of 2^16. -/
theorem oversized_reported_iff [UuidCrate] (callId : UInt32) :
    (∀ bind : BindPdu, Reported (PduPacket.fromBind callId bind) bind.encode ↔
      RoomForHeader (8 + bind.presentationContextList.length)) ∧
    (∀ request : RequestPdu,
      (∀ pfcFlags,
        Reported (PduPacket.fromRequestWithFlags callId pfcFlags request) request.encode ↔
          RoomForHeader (8 + (if request.object.isSome then 16 else 0) + request.stubData.length)) ∧
      (Reported (PduPacket.fromRequest callId request) request.encode ↔
        RoomForHeader (8 + (if request.object.isSome then 16 else 0) + request.stubData.length))) ∧
    (∀ response : ResponsePdu,
      (∀ pfcFlags,
        Reported (PduPacket.fromResponseWithFlags callId pfcFlags response) response.encode ↔
          RoomForHeader (8 + response.stubData.length)) ∧
      (Reported (PduPacket.fromResponse callId response) response.encode ↔
        RoomForHeader (8 + response.stubData.length))) ∧
    ∀ fault : FaultPdu, Reported (PduPacket.fromFault callId fault) fault.encode ↔
      RoomForHeader (12 + fault.stubData.length) := by
  refine ⟨fun bind => ?_, fun request => ?_, fun response => ?_, fun fault => ?_⟩
  · rw [← BindPdu.length_encode]
    exact reported_iff
  · rw [← RequestPdu.length_objectBytes, ← RequestPdu.length_encode]
    exact ⟨fun pfcFlags => reported_iff, reported_iff⟩
  · rw [← ResponsePdu.length_encode]
    exact ⟨fun pfcFlags => reported_iff, reported_iff⟩
  · rw [← FaultPdu.length_encode]
    exact reported_iff

end Oversized

section

open Standard

/-- A fault that is one byte too long for a fragment. -/
def largeFault : FaultPdu :=
  { allocHint := 0, ctxId := 0, cancelCount := 0, status := 0, stubData := List.replicate 65508 0 }

/-- `from_fault` overflows, where `encode` would have said that the fragment is
too large. -/
theorem largeFault_overflows :
    PduPacket.fromFault 1 largeFault = .error (.panic .overflow) ∧
      ¬ Reported (PduPacket.fromFault 1 largeFault) largeFault.encode := by
  have hstub : largeFault.stubData.length = 65508 := List.length_replicate
  have hlen : largeFault.encode.length = 65520 := by rw [FaultPdu.length_encode, hstub]
  have hbuilt : PduPacket.fromFault 1 largeFault = .error (.panic .overflow) :=
    PduPacket.fromBodyWithFlags_of_overflow (by rw [hlen])
  refine ⟨hbuilt, fun ⟨packet, hok, _⟩ => ?_⟩
  rw [hbuilt] at hok
  cases hok

end

end Rpce
