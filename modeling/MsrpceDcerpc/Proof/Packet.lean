import MsrpceDcerpc.Proof.Pdu

/-!
# The packet codec

`PduPacket.encode` writes a packet front to back; `decode` finds the four
variable parts from the end of the fragment backwards. Both are compared with
one layout: `wire p padding` is the bytes of `p` with `padding` before its
security trailer, and `Framed p` says that the lengths in the header of `p`
are those of its parts.

* `encode_eq_ok`: what `encode` returns is the layout with zero padding of the
  packet with its lengths filled in (`stamped`), and it returns that exactly
  if the packet fits into a fragment;
* `decode_eq_ok`: `decode` accepts exactly the layouts of framed packets.

With the lengths right only the authentication can be wrong
(`errorsIn_decode`). A packet of a body alone (`ofBody`) is what the constructors of the crate
build, and comes back as it was built (`decode_frame`).
-/

namespace Rpce

open Rust Endian Segment

namespace PduPacket

/-- The length of the padding of `p`. -/
def paddingLen (p : PduPacket) : Nat := (p.securityTrailer.map (·.authPadLength.toNat)).getD 0

/-- The bytes of the security trailer of `p`. -/
def trailerEncode (p : PduPacket) : List UInt8 := (p.securityTrailer.map (·.encode)).getD []

/-- The length of `p` on the wire. -/
def size (p : PduPacket) : Nat :=
  16 + p.body.length + p.paddingLen + p.trailerEncode.length + p.authValue.length

/-- The shape of a decoded packet: a security trailer exactly if there is an
auth value. -/
def Shaped (p : PduPacket) : Prop := p.securityTrailer = none ↔ p.authValue = []

/-- `p` with the lengths `encode` writes. -/
def stamped (p : PduPacket) : PduPacket :=
  { p with header := { p.header with
      fragLength := UInt16.ofNat p.size, authLength := UInt16.ofNat p.authValue.length } }

theorem length_trailerEncode (p : PduPacket) :
    p.trailerEncode.length = if p.securityTrailer = none then 0 else 8 := by
  unfold trailerEncode
  cases p.securityTrailer with
  | none => rfl
  | some t => simp

theorem size_le_of_framed {p : PduPacket} (h : p.header.fragLength.toNat = p.size) :
    p.size ≤ 65535 := by
  have := p.header.fragLength.toNat_lt
  omega

theorem trailerBytes_eq (p : PduPacket) :
    trailerBytes p.securityTrailer = List.replicate p.paddingLen 0 ++ p.trailerEncode := by
  unfold trailerBytes paddingLen trailerEncode
  cases p.securityTrailer with
  | none => rfl
  | some t => rfl

/-! ## The trailer -/

/-- What `decodeTrailer` finds at the end of a fragment: nothing but the body,
or padding, trailer and auth value after it. -/
theorem decodeTrailer_eq_ok {bytes : List UInt8} {authLength bodyEnd : Nat}
    {t : Option SecurityTrailer} :
    decodeTrailer bytes bytes.length authLength = .ok (bodyEnd, t) ↔
      (authLength = 0 ∧ t = none ∧ bodyEnd = bytes.length) ∨
      (authLength ≠ 0 ∧ ∃ trailer, t = some trailer ∧
        bodyEnd + trailer.authPadLength.toNat + 8 + authLength = bytes.length ∧ 16 ≤ bodyEnd ∧
        At bytes (bodyEnd + trailer.authPadLength.toNat) trailer.encode) := by
  have h16 : headerLen = 16 := rfl
  have h8 : SecurityTrailer.LEN = 8 := rfl
  by_cases h0 : authLength = 0
  · simp only [decodeTrailer, h0, if_true, pure_eq_ok, Except.ok.injEq, Prod.mk.injEq, true_and,
      ne_eq, not_true, false_and, or_false, eq_comm, and_comm]
  simp only [decodeTrailer, h0, if_false, bind_eq_ok, failIf_eq_ok, okOr_eq_ok, subUsize_eq_ok,
    checkedSub_eq_some, slice_eq_ok, SecurityTrailer.decode_eq_ok, pure_eq_ok, Except.ok.injEq,
    Prod.mk.injEq, h16, h8, false_and, ne_eq, not_false_eq_true, true_and, false_or]
  constructor
  · rintro ⟨_, ⟨ha, rfl⟩, _, ⟨ht, rfl⟩, -, -, tb, ⟨-, -, hl, htb⟩, trailer, htrailer, _, ⟨hp, rfl⟩, -,
      h16, rfl, rfl⟩
    have heq : tb = trailer.encode :=
      htrailer.eq_of_length (by rw [SecurityTrailer.length_encode]; omega)
    refine ⟨trailer, rfl, by omega, by omega, ?_⟩
    rw [Nat.sub_add_cancel hp, ← heq]
    exact htb
  · rintro ⟨trailer, rfl, hlen, h16, hat⟩
    have hstart : bytes.length - authLength - 8 = bodyEnd + trailer.authPadLength.toNat := by omega
    exact ⟨_, ⟨by omega, rfl⟩, _, ⟨by omega, rfl⟩, (), by omega, trailer.encode,
      ⟨by omega, by omega, by rw [SecurityTrailer.length_encode]; omega, by rw [hstart]; exact hat⟩,
      trailer, at_zero_self _, bodyEnd, ⟨by omega, by omega⟩, (), by omega, rfl, rfl⟩

/-- `decodeTrailer` finds the body and the trailer of `p` exactly if they are
where the layout of `p` has them. -/
theorem decodeTrailer_eq_ok_iff {bytes : List UInt8} {p : PduPacket} :
    decodeTrailer bytes bytes.length p.authValue.length =
        .ok (16 + p.body.length, p.securityTrailer) ↔
      p.Shaped ∧ bytes.length = p.size ∧
        At bytes (16 + p.body.length + p.paddingLen) p.trailerEncode := by
  obtain ⟨header, body, t, auth⟩ := p
  rw [decodeTrailer_eq_ok]
  cases t with
  | none =>
    simp only [Shaped, size, paddingLen, trailerEncode, Option.map_none, Option.getD_none,
      List.length_nil, List.length_eq_zero_iff, reduceCtorEq, false_and, exists_false, and_false,
      or_false, true_and, true_iff, at_nil, and_true]
    constructor
    · rintro ⟨rfl, hl⟩
      exact ⟨rfl, hl.symm⟩
    · rintro ⟨rfl, hl⟩
      exact ⟨rfl, hl.symm⟩
  | some trailer =>
    simp only [Shaped, size, paddingLen, trailerEncode, Option.map_some, Option.getD_some,
      SecurityTrailer.length_encode, reduceCtorEq, false_and, and_false, false_or, false_iff,
      Option.some.injEq, exists_eq_left', ne_eq, List.length_eq_zero_iff]
    constructor
    · rintro ⟨hne, hl, -, hat⟩
      exact ⟨hne, hl.symm, hat⟩
    · rintro ⟨hne, hl, hat⟩
      exact ⟨hne, hl.symm, Nat.le_add_right _ _, hat⟩

theorem returns_decodeTrailer {bytes : List UInt8} {authLength : Nat} (h : authLength ≤ bytes.length) :
    Returns (decodeTrailer bytes bytes.length authLength) := by
  unfold decodeTrailer
  split
  · exact .ok _
  refine .bind (.subUsize h) fun authStart hstart => .bind (.okOr _ _) fun trailerStart ht => ?_
  rw [subUsize_eq_ok] at hstart
  rw [okOr_eq_ok, checkedSub_eq_some] at ht
  refine .bind (.failIf _ _) fun _ _ => .bind (.slice (by omega) (by omega)) fun _ _ => ?_
  refine .bind (SecurityTrailer.returns_decode _) fun _ _ => .bind (.okOr _ _) fun _ _ => ?_
  exact .bind (.failIf _ _) fun _ _ => .ok _

/-- What `decode` may find wrong in a fragment with the right header. -/
def authErrors : List Error :=
  [.invalidPdu "auth length exceeds fragment body", .invalidPdu "auth value requires security trailer",
    .invalidPdu "security trailer requires 8 bytes", .invalidPdu "unsupported RPC auth type",
    .invalidPdu "unsupported RPC auth level", .invalidPdu "auth padding exceeds fragment body"]

theorem errorsIn_decodeSecurityTrailer (bytes : List UInt8) :
    ErrorsIn (· ∈ authErrors) (SecurityTrailer.decode bytes) := by
  refine .bind (.failIf fun _ => by decide) fun _ _ => .bind (.index _ _) fun _ _ => ?_
  refine .bind (.mapErr fun _ => by decide) fun _ _ => .bind (.index _ _) fun _ _ => ?_
  refine .bind (.mapErr fun _ => by decide) fun _ _ => .bind (.index _ _) fun _ _ => ?_
  exact .bind (.index _ _) fun _ _ => .bind (.readU32 _ _ _) fun _ _ => .ok _

theorem errorsIn_decodeTrailer (bytes : List UInt8) (fragLength authLength : Nat) :
    ErrorsIn (· ∈ authErrors) (decodeTrailer bytes fragLength authLength) := by
  unfold decodeTrailer
  split
  · exact .ok _
  · refine .bind (.subUsize _ _) fun _ _ => .bind (.okOr (by decide)) fun _ _ => ?_
    refine .bind (.failIf fun _ => by decide) fun _ _ => .bind (.slice _ _ _) fun _ _ => ?_
    refine .bind (errorsIn_decodeSecurityTrailer _) fun _ _ => ?_
    refine .bind (.okOr (by decide)) fun _ _ => ?_
    exact .bind (.failIf fun _ => by decide) fun _ _ => .ok _

/-! ## The layout -/

variable [DataRepresentation]

/-- The bytes of `p`, with `padding` before its security trailer. -/
def wire (p : PduPacket) (padding : List UInt8) : List UInt8 :=
  p.header.encode ++ p.body ++ padding ++ p.trailerEncode ++ p.authValue

/-- The packets `decode` returns. -/
structure Framed (p : PduPacket) : Prop where
  readable : p.header.Readable
  shaped : p.Shaped
  fragLength : p.header.fragLength.toNat = p.size
  authLength : p.header.authLength.toNat = p.authValue.length

theorem length_wire {p : PduPacket} {padding : List UInt8} (h : padding.length = p.paddingLen) :
    (p.wire padding).length = p.size := by
  simp only [wire, size, List.length_append, PduHeader.length_encode, h]

/-- The parts of a packet at their offsets. -/
theorem at_wire {bytes padding : List UInt8} {p : PduPacket} (h : padding.length = p.paddingLen) :
    At bytes 0 (p.wire padding) ↔ At bytes 0 p.header.encode ∧ At bytes 16 p.body ∧
      At bytes (16 + p.body.length) padding ∧
      At bytes (16 + p.body.length + p.paddingLen) p.trailerEncode ∧
      At bytes (16 + p.body.length + p.paddingLen + p.trailerEncode.length) p.authValue := by
  simp only [wire, at_append, List.length_append, PduHeader.length_encode, h, Nat.zero_add, and_assoc]

/-! ## Encoding -/

/-- What `encode` returns, and when. -/
theorem encode_eq_ok {p : PduPacket} {bytes : List UInt8} :
    p.encode = .ok bytes ↔ (p.authValue ≠ [] → p.securityTrailer ≠ none) ∧ p.size ≤ 65535 ∧
      bytes = p.stamped.wire (List.replicate p.paddingLen 0) := by
  have hsize : headerLen + p.body.length +
      ((p.securityTrailer.map fun t => (t.authPadLength.toNat, SecurityTrailer.LEN)).getD (0, 0)).1 +
      ((p.securityTrailer.map fun t => (t.authPadLength.toNat, SecurityTrailer.LEN)).getD (0, 0)).2 +
      p.authValue.length = p.size := by
    unfold size paddingLen trailerEncode
    cases p.securityTrailer with
    | none => rfl
    | some t => simp only [Option.map_some, Option.getD_some, SecurityTrailer.length_encode]; rfl
  simp only [encode, bind_eq_ok, failIf_eq_ok, pure_eq_ok, Except.ok.injEq, hsize, trailerBytes_eq]
  have hnone : ¬ (p.authValue.length > 0 ∧ p.securityTrailer.isNone = true) ↔
      (p.authValue ≠ [] → p.securityTrailer ≠ none) := by
    rw [gt_iff_lt, List.length_pos_iff, Option.isNone_iff_eq_none, not_and]
  have hwire : p.stamped.wire (List.replicate p.paddingLen 0) =
      p.stamped.header.encode ++ p.body ++ (List.replicate p.paddingLen 0 ++ p.trailerEncode) ++
        p.authValue := by
    rw [wire, ← List.append_assoc]
    rfl
  rw [hnone, hwire]
  constructor
  · rintro ⟨-, -, -, hshape, -, hle, rfl⟩
    exact ⟨hshape, by omega, rfl⟩
  · rintro ⟨hshape, hle, rfl⟩
    have hauth : p.authValue.length ≤ p.size := Nat.le_add_left _ _
    exact ⟨(), by omega, (), hshape, (), by omega, rfl⟩

/-- The security trailer of an encoded packet is after the body and its padding. -/
theorem at_trailer {p : PduPacket} {t : SecurityTrailer} {bytes : List UInt8}
    (h : p.encode = .ok bytes) (ht : p.securityTrailer = some t) :
    At bytes (16 + p.body.length + t.authPadLength.toNat) t.encode := by
  obtain ⟨-, -, hbytes⟩ := encode_eq_ok.mp h
  have hpad : p.paddingLen = t.authPadLength.toNat := by rw [paddingLen, ht]; rfl
  have htrailer : p.trailerEncode = t.encode := by rw [trailerEncode, ht]; rfl
  have hat : At bytes 0 (p.stamped.wire (List.replicate p.paddingLen 0)) := hbytes ▸ at_zero_self _
  obtain ⟨-, -, -, hat, -⟩ := (at_wire List.length_replicate).mp hat
  rw [← hpad, ← htrailer]
  exact hat

/-! ## Decoding -/

/-- The bytes that have the parts of `p` where the layout of `p` has them are a
layout of `p`. -/
theorem eq_wire {bytes : List UInt8} {p : PduPacket} (hsize : bytes.length = p.size)
    (hat : At bytes 0 p.header.encode) (hatBody : At bytes 16 p.body)
    (hatTrailer : At bytes (16 + p.body.length + p.paddingLen) p.trailerEncode)
    (hatAuth : At bytes (bytes.length - p.authValue.length) p.authValue) :
    ∃ padding, padding.length = p.paddingLen ∧ bytes = p.wire padding := by
  have hs : p.size = 16 + p.body.length + p.paddingLen + p.trailerEncode.length +
    p.authValue.length := rfl
  have hpad : ((bytes.drop (16 + p.body.length)).take p.paddingLen).length = p.paddingLen := by
    rw [List.length_take, List.length_drop]
    omega
  have hauth : bytes.length - p.authValue.length =
    16 + p.body.length + p.paddingLen + p.trailerEncode.length := by omega
  rw [hauth] at hatAuth
  refine ⟨_, hpad, At.eq_of_length ?_ (by rw [length_wire hpad, hsize])⟩
  exact (at_wire hpad).mpr ⟨hat, hatBody, at_take_drop _ _ _, hatTrailer, hatAuth⟩

/-- `decode` accepts exactly the layouts of framed packets. -/
theorem decode_eq_ok {bytes : List UInt8} {p : PduPacket} :
    decode bytes = .ok p ↔
      p.Framed ∧ ∃ padding, padding.length = p.paddingLen ∧ bytes = p.wire padding := by
  have h16 : headerLen = 16 := rfl
  simp only [decode, bind_eq_ok, failIf_eq_ok, subUsize_eq_ok, slice_eq_ok, PduHeader.decode_eq_ok,
    pure_eq_ok, Except.ok.injEq, h16]
  constructor
  · rintro ⟨header, ⟨hat, hread⟩, -, hge, -, hlen, _, ⟨-, rfl⟩, -, hauth, ⟨bodyEnd, t⟩, htrailer,
      body, ⟨hle, hend, hbody, hatBody⟩, _, ⟨-, rfl⟩, auth, ⟨-, -, hauthLen, hatAuth⟩, rfl⟩
    dsimp only at hle hend hbody
    have hl : bytes.length = header.fragLength.toNat := Classical.not_not.mp hlen
    rw [← hl] at htrailer hatAuth hauthLen hauth
    have hauth : header.authLength.toNat = auth.length := by omega
    have hbodyEnd : bodyEnd = 16 + body.length := by omega
    rw [hauth, hbodyEnd] at htrailer
    rw [hauth] at hatAuth
    obtain ⟨hshaped, hsize, hatTrailer⟩ :=
      decodeTrailer_eq_ok_iff (p := ⟨header, body, t, auth⟩).mp htrailer
    exact ⟨⟨hread, hshaped, hl ▸ hsize, hauth⟩, eq_wire hsize hat hatBody hatTrailer hatAuth⟩
  · rintro ⟨hf, padding, hpad, hbytes⟩
    have hsize : p.size = 16 + p.body.length + p.paddingLen + p.trailerEncode.length +
      p.authValue.length := rfl
    have hlen : bytes.length = p.size := by rw [hbytes, length_wire hpad]
    have hwire : At bytes 0 (p.wire padding) := hbytes ▸ at_zero_self _
    obtain ⟨hat, hatBody, -, hatTrailer, hatAuth⟩ := (at_wire hpad).mp hwire
    have htrailer := decodeTrailer_eq_ok_iff.mpr ⟨hf.shaped, hlen, hatTrailer⟩
    have hfrag : p.header.fragLength.toNat = bytes.length := hf.fragLength.trans hlen.symm
    have hstart : 16 + p.body.length + p.paddingLen + p.trailerEncode.length =
      bytes.length - p.authValue.length := by omega
    rw [hstart] at hatAuth
    refine ⟨p.header, ⟨hat, hf.readable⟩, ?_⟩
    rw [hfrag, hf.authLength]
    exact ⟨(), by omega, (), Classical.not_not.mpr rfl, _, ⟨by omega, rfl⟩, (), by omega, _, htrailer,
      p.body, ⟨by dsimp only; omega, by dsimp only; omega, by dsimp only; omega, hatBody⟩,
      _, ⟨by omega, rfl⟩, p.authValue, ⟨by omega, by omega, by omega, hatAuth⟩, rfl⟩

/-- The header of a decoded packet, and the length it states. -/
theorem header_of_decode {bytes : List UInt8} {p : PduPacket} (h : decode bytes = .ok p) :
    PduHeader.decode bytes = .ok p.header ∧ bytes.length = p.header.fragLength.toNat ∧
      16 ≤ bytes.length := by
  obtain ⟨hframed, padding, hpad, rfl⟩ := decode_eq_ok.mp h
  have hat := (at_wire hpad).mp (at_zero_self (p.wire padding))
  have hsize : p.size = 16 + p.body.length + p.paddingLen + p.trailerEncode.length +
    p.authValue.length := rfl
  rw [length_wire hpad, hframed.fragLength]
  exact ⟨PduHeader.decode_eq_ok.mpr ⟨hat.1, hframed.readable⟩, rfl, by omega⟩

/-- The errors of `decode` where its header and its length are right. -/
theorem errorsIn_decode {bytes : List UInt8} {header : PduHeader}
    (hheader : PduHeader.decode bytes = .ok header) (hle : headerLen ≤ header.fragLength.toNat)
    (hlen : bytes.length = header.fragLength.toNat) : ErrorsIn (· ∈ authErrors) (decode bytes) := by
  rw [decode, hheader, bind_ok]
  refine .bind (.failIf fun h => absurd h (Nat.not_lt.mpr hle)) fun _ _ => ?_
  refine .bind (.failIf fun h => absurd hlen h) fun _ _ => ?_
  refine .bind (.subUsize _ _) fun _ _ => .bind (.failIf fun _ => by decide) fun _ _ => ?_
  refine .bind (errorsIn_decodeTrailer _ _ _) fun _ _ => .bind (.slice _ _ _) fun _ _ => ?_
  exact .bind (.subUsize _ _) fun _ _ => .bind (.slice _ _ _) fun _ _ => .ok _

/-! ## Round trips -/

/-- A readable packet of the shape of a decoded one, stamped, is framed. -/
theorem framed_stamped {p : PduPacket} (hread : p.header.Readable) (hshaped : p.Shaped)
    (hsize : p.size ≤ 65535) : p.stamped.Framed where
  readable := ⟨hread.version, hread.drep⟩
  shaped := hshaped
  fragLength := by
    show (UInt16.ofNat p.size).toNat = p.size
    rw [UInt16.toNat_ofNat']
    omega
  authLength := by
    have : p.authValue.length ≤ p.size := Nat.le_add_left _ _
    show (UInt16.ofNat p.authValue.length).toNat = p.authValue.length
    rw [UInt16.toNat_ofNat']
    omega

/-- A decoded packet has its lengths filled in. -/
theorem Framed.stamped_eq {p : PduPacket} (h : p.Framed) : p.stamped = p := by
  have hfrag : UInt16.ofNat p.size = p.header.fragLength := by
    rw [← h.fragLength, UInt16.ofNat_toNat]
  have hauth : UInt16.ofNat p.authValue.length = p.header.authLength := by
    rw [← h.authLength, UInt16.ofNat_toNat]
  rw [stamped, hfrag, hauth]

/-- What `encode` returns for a packet that fits. -/
theorem encode_of_size {p : PduPacket} (hshaped : p.Shaped) (hsize : p.size ≤ 65535) :
    p.encode = .ok (p.stamped.wire (List.replicate p.paddingLen 0)) :=
  encode_eq_ok.mpr ⟨fun hne hnone => hne (hshaped.mp hnone), hsize, rfl⟩

/-- A packet comes back as it was encoded, with its lengths filled in. -/
theorem decode_of_encode {p : PduPacket} {bytes : List UInt8} (hread : p.header.Readable)
    (hshaped : p.Shaped) (h : p.encode = .ok bytes) : decode bytes = .ok p.stamped := by
  obtain ⟨-, hsize, rfl⟩ := encode_eq_ok.mp h
  exact decode_eq_ok.mpr ⟨framed_stamped hread hshaped hsize, _, List.length_replicate .., rfl⟩

/-! ## Packets of a body -/

/-- The packet of a body, in one fragment without a security trailer. -/
def ofBody (ptype : PduType) (callId : UInt32) (pfcFlags : UInt8) (body : List UInt8) : PduPacket :=
  new { PduHeader.new ptype pfcFlags callId with fragLength := UInt16.ofNat (16 + body.length) } body []

/-- The bytes of that packet. -/
def frame (ptype : PduType) (callId : UInt32) (pfcFlags : UInt8) (body : List UInt8) : List UInt8 :=
  (ofBody ptype callId pfcFlags body).header.encode ++ body

variable {ptype : PduType} {callId : UInt32} {pfcFlags : UInt8} {body : List UInt8}

/-- The constructors of the crate, on every body: the length they add up
overflows if the length of the body, cast to `u16`, leaves no room for the
header's. -/
theorem fromBodyWithFlags_eq_ok {p : PduPacket} :
    fromBodyWithFlags ptype callId pfcFlags body = .ok p ↔
      body.length % 65536 < 65520 ∧ p = ofBody ptype callId pfcFlags body := by
  have h16 : COMMON_HEADER_LEN.toNat = 16 := rfl
  have hsum : COMMON_HEADER_LEN + UInt16.ofNat body.length = UInt16.ofNat (16 + body.length) := by
    apply UInt16.toNat_inj.mp
    rw [UInt16.toNat_add, UInt16.toNat_ofNat', UInt16.toNat_ofNat', h16, Nat.add_mod_mod]
  simp only [fromBodyWithFlags, bind_eq_ok, addU16_eq_ok, pure_eq_ok, Except.ok.injEq, hsum, h16,
    UInt16.toNat_ofNat', Nat.reducePow]
  constructor
  · rintro ⟨_, ⟨hlt, rfl⟩, rfl⟩
    exact ⟨by omega, rfl⟩
  · rintro ⟨hlt, rfl⟩
    exact ⟨_, ⟨by omega, rfl⟩, rfl⟩

/-- It does not overflow if the body fits into a fragment. -/
theorem fromBodyWithFlags_eq (hl : 16 + body.length ≤ 65535) :
    fromBodyWithFlags ptype callId pfcFlags body = .ok (ofBody ptype callId pfcFlags body) :=
  fromBodyWithFlags_eq_ok.mpr ⟨by omega, rfl⟩

theorem fromBodyWithFlags_of_overflow (h : 65520 ≤ body.length % 65536) :
    fromBodyWithFlags ptype callId pfcFlags body = .error (.panic .overflow) := by
  have hadd : 2 ^ 16 ≤ COMMON_HEADER_LEN.toNat + (UInt16.ofNat body.length).toNat := by
    have h16 : COMMON_HEADER_LEN.toNat = 16 := rfl
    rw [UInt16.toNat_ofNat', h16]
    omega
  rw [fromBodyWithFlags, addU16_of_overflow hadd, bind_error]

theorem fromRequestWithFlags_eq [UuidCrate] {r : RequestPdu} (hl : 16 + r.encode.length ≤ 65535) :
    fromRequestWithFlags callId pfcFlags r = .ok (ofBody .request callId
      (pfcFlags ||| (r.object.map fun _ => PFC_OBJECT_UUID).getD 0) r.encode) :=
  fromBodyWithFlags_eq hl

theorem stamped_ofBody : (ofBody ptype callId pfcFlags body).stamped =
    ofBody ptype callId pfcFlags body := by
  have hsize : (ofBody ptype callId pfcFlags body).size = 16 + body.length := rfl
  rw [stamped, hsize]
  rfl

theorem encode_ofBody (hl : 16 + body.length ≤ 65535) :
    (ofBody ptype callId pfcFlags body).encode = .ok (frame ptype callId pfcFlags body) := by
  refine encode_eq_ok.mpr ⟨fun h => absurd rfl h, hl, ?_⟩
  rw [stamped_ofBody]
  show _ = _ ++ [] ++ [] ++ []
  rw [List.append_nil, List.append_nil, List.append_nil]
  rfl

/-- The length is added up again in `encode`, as a `usize`. -/
theorem encode_ofBody_of_large (hl : 65535 < 16 + body.length) :
    (ofBody ptype callId pfcFlags body).encode = .error (.err (.invalidPdu "fragment is too large")) := by
  have hauth : ¬ (ofBody ptype callId pfcFlags body).authValue.length > 65535 := Nat.not_lt_zero _
  have hnone : ¬ ((ofBody ptype callId pfcFlags body).authValue.length > 0 ∧
      (ofBody ptype callId pfcFlags body).securityTrailer.isNone = true) :=
    fun h => Nat.lt_irrefl 0 h.1
  have hlarge : headerLen + body.length + 0 + 0 + 0 > 65535 := hl
  rw [encode, failIf_of_not _ hauth, bind_ok, failIf_of_not _ hnone, bind_ok]
  show (failIf (headerLen + body.length + 0 + 0 + 0 > 65535) _ >>= _) = _
  rw [failIf_of _ hlarge, bind_error]

theorem length_frame : (frame ptype callId pfcFlags body).length = 16 + body.length := by
  rw [frame, List.length_append, PduHeader.length_encode]

/-- It is read back as it was built. -/
theorem decode_frame (hd : WindowsDefaultLittle) (hl : 16 + body.length ≤ 65535) :
    decode (frame ptype callId pfcFlags body) = .ok (ofBody ptype callId pfcFlags body) := by
  have hread : (ofBody ptype callId pfcFlags body).header.Readable :=
    PduHeader.readable_of_windowsDefault hd rfl rfl
  rw [decode_of_encode hread ⟨fun _ => rfl, fun _ => rfl⟩ (encode_ofBody hl), stamped_ofBody]

/-! ## The codec returns -/

theorem returns_encode (p : PduPacket) : Returns p.encode :=
  .bind (.failIf _ _) fun _ _ => .bind (.failIf _ _) fun _ _ => .bind (.failIf _ _) fun _ _ => .ok _

theorem returns_decode (bytes : List UInt8) : Returns (decode bytes) := by
  have h16 : headerLen = 16 := rfl
  refine .bind (PduHeader.returns_decode _) fun header _ => .bind (.failIf _ _) fun _ hge => ?_
  refine .bind (.failIf _ _) fun _ hlen => ?_
  rw [failIf_eq_ok] at hge hlen
  have hl : bytes.length = header.fragLength.toNat := Classical.not_not.mp hlen
  rw [← hl]
  refine .bind (.subUsize (by omega)) fun content hcontent => .bind (.failIf _ _) fun _ hauth => ?_
  rw [failIf_eq_ok] at hauth
  rw [subUsize_eq_ok] at hcontent
  refine .bind (returns_decodeTrailer (by omega)) fun ⟨bodyEnd, t⟩ htrailer => ?_
  have hend : 16 ≤ bodyEnd ∧ bodyEnd ≤ bytes.length := by
    rcases decodeTrailer_eq_ok.mp htrailer with ⟨-, -, rfl⟩ | ⟨-, trailer, -, hsum, hle, -⟩
    · omega
    · omega
  refine .bind (.slice (by omega) hend.2) fun _ _ => .bind (.subUsize (by omega)) fun start hs => ?_
  rw [subUsize_eq_ok] at hs
  exact .bind (.slice (by omega) (by omega)) fun _ _ => .ok _

/-! ## Both directions -/

/-- The layouts of one packet differ in the padding only. -/
theorem getElem?_wire {p : PduPacket} {padding zeros : List UInt8} (i : Nat)
    (hpad : padding.length = p.paddingLen) (hzeros : zeros.length = p.paddingLen) :
    (p.wire zeros)[i]? =
      if 16 + p.body.length ≤ i ∧ i < 16 + p.body.length + p.paddingLen then
        zeros[i - (16 + p.body.length)]?
      else (p.wire padding)[i]? := by
  have hpre : (p.header.encode ++ p.body).length = 16 + p.body.length := by
    rw [List.length_append, PduHeader.length_encode]
  have hwire : ∀ pad, p.wire pad =
      (p.header.encode ++ p.body) ++ pad ++ (p.trailerEncode ++ p.authValue) := fun pad => by
    simp only [wire, List.append_assoc]
  rw [hwire, hwire, getElem?_replace i (hpad.trans hzeros.symm), hpre, hzeros]

/-- **The packet codec, in both directions.** A packet of a readable header
and the shape of a decoded one is encoded exactly if it fits into a fragment,
and is decoded again, with the lengths of its parts in its header. What is
decoded is encoded again, into bytes that differ from the first in the padding
at most, and that decode to the same packet. -/
theorem packet_codec :
    (∀ p : PduPacket, p.header.rpcVers = 5 →
      (∃ order, DataRepresentation.fromBytes p.header.packedDrep = .ok order) →
      (p.securityTrailer.isSome ↔ p.authValue ≠ []) →
      ((∃ bytes, p.encode = .ok bytes) ↔
        16 + p.body.length + p.paddingLen + p.trailerEncode.length + p.authValue.length ≤ 65535) ∧
      ∀ bytes, p.encode = .ok bytes → ∃ fragLength authLength : UInt16,
        fragLength.toNat = bytes.length ∧ authLength.toNat = p.authValue.length ∧
        decode bytes = .ok { p with header := { p.header with fragLength, authLength } }) ∧
    ∀ bytes p, decode bytes = .ok p → ∃ bytes', p.encode = .ok bytes' ∧
      bytes'.length = bytes.length ∧
      (∀ i, bytes'[i]? = if 16 + p.body.length ≤ i ∧ i < 16 + p.body.length + p.paddingLen
        then some 0 else bytes[i]?) ∧
      decode bytes' = .ok p := by
  refine ⟨fun p hv ⟨order, ho⟩ hs => ?_, fun bytes p h => ?_⟩
  · have hread : p.header.Readable := ⟨hv, by rw [PduHeader.byteOrder_of_fromBytes ho]; exact ho⟩
    have hshaped : p.Shaped := by
      rw [Shaped, ← not_iff_not, ← ne_eq, ← ne_eq, Option.ne_none_iff_isSome]
      exact hs
    refine ⟨⟨fun ⟨bytes, h⟩ => (encode_eq_ok.mp h).2.1, fun h => ⟨_, encode_of_size hshaped h⟩⟩, ?_⟩
    intro bytes h
    obtain ⟨-, hsize, hbytes⟩ := encode_eq_ok.mp h
    have hf := framed_stamped hread hshaped hsize
    refine ⟨_, _, ?_, hf.authLength, decode_of_encode hread hshaped h⟩
    have hlen : bytes.length = p.size :=
      hbytes ▸ length_wire (p := p.stamped) (List.length_replicate ..)
    exact hf.fragLength.trans hlen.symm
  · obtain ⟨hf, padding, hpad, rfl⟩ := decode_eq_ok.mp h
    have hzeros : (List.replicate p.paddingLen (0 : UInt8)).length = p.paddingLen :=
      List.length_replicate ..
    have henc := encode_of_size hf.shaped (size_le_of_framed hf.fragLength)
    refine ⟨_, henc, ?_, fun i => ?_, ?_⟩
    · rw [hf.stamped_eq, length_wire hzeros, length_wire hpad]
    · rw [hf.stamped_eq, getElem?_wire i hpad hzeros]
      split
      · rw [List.getElem?_replicate, if_pos (by omega)]
      · rfl
    · rw [decode_of_encode hf.readable hf.shaped henc, hf.stamped_eq]

end PduPacket

end Rpce
