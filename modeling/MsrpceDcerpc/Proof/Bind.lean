import MsrpceDcerpc.Proof.Pdu

/-!
# What the codecs of `bind.rs` accept

The decoders of `bind.rs`, each as one equivalence with the wire form it
reads (`decode_eq_ok`), and that each returns for all bytes. The encoder of a
context list has the one `expect` of the crate: `encodeContexts_eq` says for
which lists it panics.
-/

namespace Rpce

open Rust Endian Segment

theorem BindNakPdu.returns_decode (bytes : List UInt8) : Returns (BindNakPdu.decode bytes) := by
  refine .bind (.failIf _ _) fun _ hl => ?_
  rw [failIf_eq_ok] at hl
  exact .bind (.readU16 (by omega)) fun _ _ => .bind (RejectReason.returns_tryFrom _) fun _ _ => .ok _

/-- Three rounds reach the next multiple of 4. -/
theorem BindAckPdu.align4_three (offset : Nat) :
    BindAckPdu.align4 3 offset = offset + (4 - offset % 4) % 4 := by
  simp only [BindAckPdu.align4]
  split_ifs <;> omega

variable [UuidCrate]

theorem SyntaxId.length_flatMap_encode (l : List SyntaxId) :
    (l.flatMap SyntaxId.encode).length = l.length * 20 := length_flatMap_of_length length_encode l

/-- A syntax identifier read from the 20 bytes at `i`. -/
theorem SyntaxId.at_of_slice {bytes ys : List UInt8} {i j : Nat} {s : SyntaxId} (hj : j = i + 20)
    (hys : (slice bytes i j : Result _) = .ok ys) (hs : decode ys = .ok s) : At bytes i s.encode := by
  obtain ⟨-, -, hl, hat⟩ := slice_eq_ok.mp hys
  rw [decode_eq_ok] at hs
  rwa [hs.eq_of_length (by rw [length_encode]; omega)] at hat

theorem SyntaxId.slice_of_at {bytes : List UInt8} {i j : Nat} {s : SyntaxId} (hj : j = i + 20)
    (h : At bytes i s.encode) : (slice bytes i j : Result _) = .ok s.encode := by
  have hl := h.length_le_of_pos (by rw [length_encode]; omega)
  rw [length_encode] at hl
  exact slice_eq_ok.mpr ⟨by omega, by omega, by rw [length_encode]; omega, h⟩

/-! ## Presentation contexts -/

namespace PresentationContext

@[simp] theorem wire_syntaxId_little : Wire.syntaxId .little = SyntaxId.encode := rfl

theorem length_context (c : PresentationContext) (reserved : UInt8) :
    (Wire.context .little c reserved).length = 24 + c.transferSyntaxes.length * 20 := by
  simp only [Wire.context, wire_syntaxId_little, List.length_append, List.length_cons,
    List.length_nil, length_u16Bytes, SyntaxId.length_encode, SyntaxId.length_flatMap_encode]

/-- The contexts whose transfer syntaxes their counter can count. -/
def Counted (c : PresentationContext) : Prop := c.transferSyntaxes.length ≤ 255

instance (c : PresentationContext) : Decidable c.Counted := inferInstanceAs (Decidable (_ ≤ _))

theorem encode_eq_ok {c : PresentationContext} {bytes : List UInt8} :
    c.encode = .ok bytes ↔ c.Counted ∧ bytes = Wire.context .little c 0 := by
  simp only [encode, bind_eq_ok, failIf_eq_ok, pure_eq_ok, Except.ok.injEq, exists_const,
    not_lt, gt_iff_lt]
  exact and_congr_right fun _ => eq_comm

/-- `count` syntaxes are read from where they are. -/
theorem decodeSyntaxes_eq_ok {bytes : List UInt8} {count offset : Nat} {l : List SyntaxId} :
    decodeSyntaxes bytes count offset = .ok l ↔
      l.length = count ∧ At bytes offset (l.flatMap SyntaxId.encode) := by
  induction count generalizing offset l with
  | zero =>
    simp only [decodeSyntaxes, pure_eq_ok, Except.ok.injEq, List.length_eq_zero_iff]
    constructor
    · rintro rfl
      exact ⟨rfl, at_nil _ _⟩
    · rintro ⟨rfl, -⟩
      rfl
  | succ count ih =>
    simp only [decodeSyntaxes, bind_eq_ok, ih, pure_eq_ok, Except.ok.injEq]
    constructor
    · rintro ⟨ys, hys, s, hs, rest, ⟨rfl, hrest⟩, rfl⟩
      refine ⟨rfl, at_append.mpr ⟨SyntaxId.at_of_slice rfl hys hs, ?_⟩⟩
      rwa [SyntaxId.length_encode]
    · rintro ⟨hl, hat⟩
      cases l with
      | nil => cases hl
      | cons s rest =>
        rw [List.flatMap_cons, at_append, SyntaxId.length_encode] at hat
        exact ⟨_, SyntaxId.slice_of_at rfl hat.1, s, SyntaxId.decode_encode s, rest,
          ⟨Nat.succ.inj hl, hat.2⟩, rfl⟩

/-- The fields of a context at their offsets. -/
theorem at_context {bytes : List UInt8} {c : PresentationContext} {reserved : UInt8} :
    At bytes 0 (Wire.context .little c reserved) ↔ At bytes 0 (u16Bytes .little c.contextId) ∧
      At bytes 2 [UInt8.ofNat c.transferSyntaxes.length] ∧ At bytes 3 [reserved] ∧
      At bytes 4 c.abstractSyntax.encode ∧ At bytes 24 (c.transferSyntaxes.flatMap SyntaxId.encode) := by
  simp only [Wire.context, wire_syntaxId_little, at_append, at_cons_cons, List.length_append,
    length_u16Bytes, List.length_cons, List.length_nil, SyntaxId.length_encode, Nat.reduceAdd,
    and_assoc]

theorem decode_eq_ok {bytes : List UInt8} {c : PresentationContext} {n : Nat} :
    decode bytes = .ok (c, n) ↔ ∃ reserved, At bytes 0 (Wire.context .little c reserved) ∧
      c.Counted ∧ n = 24 + c.transferSyntaxes.length * 20 := by
  simp only [decode, bind_eq_ok, failIf_eq_ok, readU16_eq_ok, index_eq_ok, decodeSyntaxes_eq_ok,
    pure_eq_ok, Except.ok.injEq, Prod.mk.injEq]
  constructor
  · rintro ⟨-, h24, id, ⟨-, h0⟩, count, h2, -, -, ys, hys, s, hs, l, ⟨hl, hat⟩, rfl, rfl⟩
    obtain ⟨reserved, h3⟩ := exists_at_singleton (show 3 < bytes.length by omega)
    refine ⟨_, at_context.mpr ⟨h0, ?_, h3, SyntaxId.at_of_slice rfl hys hs, hat⟩, ?_, by rw [hl]⟩
    · rw [hl, UInt8.ofNat_toNat]
      exact h2
    · have := count.toNat_lt
      unfold Counted
      dsimp only
      omega
  · rintro ⟨reserved, h, hle, rfl⟩
    have hlen := h.length_le (Nat.zero_le _)
    rw [length_context] at hlen
    obtain ⟨h0, h2, -, h4, h24⟩ := at_context.mp h
    have hcount : (UInt8.ofNat c.transferSyntaxes.length).toNat = c.transferSyntaxes.length := by
      unfold Counted at hle
      rw [UInt8.toNat_ofNat']
      omega
    exact ⟨(), by omega, _, ⟨by omega, h0⟩, _, h2, (), by rw [hcount]; omega, _,
      SyntaxId.slice_of_at rfl h4, _, SyntaxId.decode_encode _, _, ⟨hcount.symm, h24⟩, rfl,
      by rw [hcount]⟩

theorem returns_decodeSyntaxes {bytes : List UInt8} {count offset : Nat}
    (h : offset + count * 20 ≤ bytes.length) : Returns (decodeSyntaxes bytes count offset) := by
  induction count generalizing offset with
  | zero => exact .ok _
  | succ count ih =>
    refine .bind (.slice (by omega) (by omega)) fun _ _ => ?_
    refine .bind (SyntaxId.returns_decode _) fun _ _ => ?_
    exact .bind (ih (by omega)) fun _ _ => .ok _

theorem returns_decode (bytes : List UInt8) : Returns (decode bytes) := by
  refine .bind (.failIf _ _) fun _ hl => ?_
  rw [failIf_eq_ok] at hl
  refine .bind (.readU16 (by omega)) fun _ _ => .bind (.index (by omega)) fun count _ => ?_
  refine .bind (.failIf _ _) fun _ hneed => ?_
  rw [failIf_eq_ok] at hneed
  refine .bind (.slice (by omega) (by omega)) fun _ _ => ?_
  refine .bind (SyntaxId.returns_decode _) fun _ _ => ?_
  exact .bind (returns_decodeSyntaxes (by omega)) fun _ _ => .ok _

end PresentationContext

/-! ## Lists of contexts -/

namespace PresentationContextList

/-- The bytes of contexts, each with its reserved byte. -/
def wire (l : List (PresentationContext × UInt8)) : List UInt8 :=
  l.flatMap fun (c, reserved) => Wire.context .little c reserved

/-- The length of the bytes of contexts. -/
def contextsLen (l : List PresentationContext) : Nat :=
  (l.map fun c => 24 + c.transferSyntaxes.length * 20).sum

theorem contextsLen_cons (c : PresentationContext) (l : List PresentationContext) :
    contextsLen (c :: l) = 24 + c.transferSyntaxes.length * 20 + contextsLen l := rfl

theorem contextsLen_filter_le (p : PresentationContext → Bool) (l : List PresentationContext) :
    contextsLen (l.filter p) ≤ contextsLen l := by
  induction l with
  | nil => exact Nat.le_refl _
  | cons c l ih =>
    rw [List.filter_cons, contextsLen_cons]
    split
    · rw [contextsLen_cons]
      omega
    · omega

theorem length_wire (l : List (PresentationContext × UInt8)) :
    (wire l).length = contextsLen (l.map Prod.fst) := by
  induction l with
  | nil => rfl
  | cons c l ih =>
    rw [wire, List.flatMap_cons, List.length_append, PresentationContext.length_context]
    exact congrArg _ ih

/-- The `expect` in the loop of `encode`: it fails exactly on a context with
more transfer syntaxes than its counter can count. -/
theorem encodeContexts_eq (l : List PresentationContext) :
    encodeContexts l = if ∀ c ∈ l, c.Counted then .ok (wire (l.map fun c => (c, 0)))
      else .error (.panic (.expect "presentation context count was prevalidated")) := by
  induction l with
  | nil => rfl
  | cons c l ih =>
    by_cases hc : c.Counted
    · have henc : c.encode = .ok (Wire.context .little c 0) :=
        PresentationContext.encode_eq_ok.mpr ⟨hc, rfl⟩
      simp only [encodeContexts, henc, expect, ih, List.forall_mem_cons, hc, true_and, bind_ok]
      split <;> rfl
    · have henc : c.encode = .error (.err (.invalidPdu "too many transfer syntaxes")) := by
        rw [PresentationContext.encode, failIf_of _ (Nat.lt_of_not_le hc)]
        rfl
      simp only [encodeContexts, henc, expect, List.forall_mem_cons, hc, false_and, if_false,
        bind_error]

/-- `count` contexts are read from where they are. -/
theorem decodeContexts_eq_ok {bytes : List UInt8} {count offset stop : Nat}
    {cs : List PresentationContext} :
    decodeContexts bytes count offset = .ok (cs, stop) ↔ ∃ l, l.map Prod.fst = cs ∧
      cs.length = count ∧ (∀ c ∈ cs, c.Counted) ∧ At bytes offset (wire l) ∧
      stop = offset + contextsLen cs := by
  induction count generalizing offset stop cs with
  | zero =>
    simp only [decodeContexts, pure_eq_ok, Except.ok.injEq, Prod.mk.injEq, List.length_eq_zero_iff]
    constructor
    · rintro ⟨rfl, rfl⟩
      exact ⟨[], rfl, rfl, by simp only [List.not_mem_nil, false_implies, implies_true], at_nil _ _, rfl⟩
    · rintro ⟨_, -, rfl, -, -, rfl⟩
      exact ⟨rfl, rfl⟩
  | succ count ih =>
    simp only [decodeContexts, bind_eq_ok, sliceFrom_eq_ok, pure_eq_ok, Except.ok.injEq, Prod.exists,
      PresentationContext.decode_eq_ok, ih, Prod.mk.injEq]
    constructor
    · rintro ⟨_, ⟨hle, rfl⟩, c, _, ⟨reserved, hc, hcounted, rfl⟩, _, _, ⟨l, rfl, rfl, hl, hat, rfl⟩,
        rfl, rfl⟩
      refine ⟨(c, reserved) :: l, rfl, rfl, List.forall_mem_cons.mpr ⟨hcounted, hl⟩, ?_, ?_⟩
      · refine at_append.mpr ⟨hc, ?_⟩
        rw [PresentationContext.length_context]
        exact hat
      · rw [contextsLen_cons, Nat.add_assoc]
    · rintro ⟨l, rfl, hlen, hl, hat, rfl⟩
      cases l with
      | nil => cases hlen
      | cons c l =>
        obtain ⟨c, reserved⟩ := c
        obtain ⟨hcounted, hl⟩ := List.forall_mem_cons.mp hl
        have hc : At bytes offset (Wire.context .little c reserved) := hat.of_append
        have hle := hc.length_le_of_pos (by rw [PresentationContext.length_context]; omega)
        have hrest := (at_append.mp hat).2
        rw [PresentationContext.length_context] at hrest
        refine ⟨_, ⟨by omega, rfl⟩, c, _, ⟨reserved, hc, hcounted, rfl⟩, _, _,
          ⟨l, rfl, Nat.succ.inj hlen, hl, hrest, rfl⟩, rfl, ?_⟩
        rw [List.map_cons, contextsLen_cons, Nat.add_assoc]

theorem returns_decodeContexts {bytes : List UInt8} {count offset : Nat}
    (h : offset ≤ bytes.length) : Returns (decodeContexts bytes count offset) := by
  induction count generalizing offset with
  | zero => exact .ok _
  | succ count ih =>
    refine .bind (.sliceFrom h) fun rest hrest => ?_
    rw [sliceFrom_eq_ok] at hrest
    refine .bind (PresentationContext.returns_decode _) fun ⟨c, n⟩ hc => ?_
    obtain ⟨reserved, hat, -, rfl⟩ := PresentationContext.decode_eq_ok.mp hc
    have hlen := hat.length_le (Nat.zero_le _)
    rw [PresentationContext.length_context, ← hrest.2, List.length_drop] at hlen
    exact .bind (ih (by omega)) fun _ _ => .ok _

/-- What `encode` returns. -/
theorem encode_of_counted {l : PresentationContextList} (h : ∀ c ∈ l.contexts, c.Counted) :
    l.encode = .ok ([UInt8.ofNat l.contexts.length, 0, 0, 0] ++
      wire (l.contexts.map fun c => (c, 0))) := by
  rw [encode, encodeContexts_eq, if_pos h]
  rfl

/-- `encode` panics on every list with a context that is not counted. -/
theorem encode_of_not_counted {l : PresentationContextList} (h : ¬ ∀ c ∈ l.contexts, c.Counted) :
    l.encode = .error (.panic (.expect "presentation context count was prevalidated")) := by
  rw [encode, encodeContexts_eq, if_neg h]
  rfl

/-- A list is decoded from its bytes, with any reserved bytes. -/
theorem decode_eq_ok {bytes : List UInt8} {l : PresentationContextList} :
    decode bytes = .ok l ↔ l.contexts.length ≤ 255 ∧ (∀ c ∈ l.contexts, c.Counted) ∧
      ∃ r₀ r₁ r₂ contexts, contexts.map Prod.fst = l.contexts ∧
        bytes = [UInt8.ofNat l.contexts.length, r₀, r₁, r₂] ++ wire contexts := by
  obtain ⟨cs⟩ := l
  simp only [decode, bind_eq_ok, failIf_eq_ok, index_eq_ok, pure_eq_ok, Except.ok.injEq, Prod.exists,
    decodeContexts_eq_ok, PresentationContextList.mk.injEq]
  constructor
  · rintro ⟨-, h4, count, h0, _, stop, ⟨l, rfl, hlen, hcounted, hat, rfl⟩, -, hstop, rfl⟩
    have hcount := count.toNat_lt
    have hl : 4 + contextsLen (l.map Prod.fst) = bytes.length := Classical.not_not.mp hstop
    refine ⟨by omega, hcounted, bytes[1], bytes[2], bytes[3], l, rfl, At.eq_of_length ?_ ?_⟩
    · rw [hlen, UInt8.ofNat_toNat, at_append]
      refine ⟨?_, hat⟩
      simp only [at_cons_cons, at_singleton]
      exact ⟨at_singleton.mp h0, List.getElem?_eq_getElem _, List.getElem?_eq_getElem _,
        List.getElem?_eq_getElem _⟩
    · rw [List.length_append, length_wire]
      exact hl.symm.le
  · rintro ⟨hle, hcounted, r₀, r₁, r₂, l, rfl, rfl⟩
    have hcount : (UInt8.ofNat (l.map Prod.fst).length).toNat = (l.map Prod.fst).length := by
      rw [UInt8.toNat_ofNat']
      omega
    have hlen : ([UInt8.ofNat (l.map Prod.fst).length, r₀, r₁, r₂] ++ wire l).length =
        4 + contextsLen (l.map Prod.fst) := by
      rw [List.length_append, length_wire]
      rfl
    refine ⟨(), by omega, _, at_zero_append _ _ |>.of_append (a := [_]), _, _,
      ⟨l, rfl, hcount.symm, hcounted, ?_, rfl⟩, (), by rw [hlen]; exact Classical.not_not.mpr rfl, rfl⟩
    exact (at_append_right (Nat.le_refl 4)).mpr (at_zero_self _)

theorem returns_decode (bytes : List UInt8) : Returns (decode bytes) := by
  refine .bind (.failIf _ _) fun _ hl => ?_
  rw [failIf_eq_ok] at hl
  refine .bind (.index (by omega)) fun _ _ => .bind (returns_decodeContexts (by omega)) fun _ _ => ?_
  exact .bind (.failIf _ _) fun _ _ => .ok _

/-- A list the two counters can count is decoded as it was encoded. -/
theorem decode_of_encode {l : PresentationContextList} {bytes : List UInt8}
    (h : l.contexts.length ≤ 255) (hl : l.encode = .ok bytes) : decode bytes = .ok l := by
  by_cases hc : ∀ c ∈ l.contexts, c.Counted
  · rw [encode_of_counted hc] at hl
    cases hl
    refine decode_eq_ok.mpr ⟨h, hc, 0, 0, 0, _, ?_, rfl⟩
    rw [List.map_map]
    exact List.map_id _
  · rw [encode_of_not_counted hc] at hl
    cases hl

end PresentationContextList

/-! ## The answers to a bind -/

namespace PresentationResult

theorem length_result (r : PresentationResult) : (Wire.result .little r).length = 24 := by
  simp only [Wire.result, PresentationContext.wire_syntaxId_little, List.length_append,
    length_u16Bytes, SyntaxId.length_encode]

theorem at_result {bytes : List UInt8} {r : PresentationResult} :
    At bytes 0 (Wire.result .little r) ↔ At bytes 0 (u16Bytes .little r.result.toUInt16) ∧
      At bytes 2 (u16Bytes .little r.reason.toUInt16) ∧ At bytes 4 r.transferSyntax.encode := by
  simp only [Wire.result, PresentationContext.wire_syntaxId_little, at_append, List.length_append,
    length_u16Bytes, Nat.reduceAdd, and_assoc]

theorem decode_eq_ok {bytes : List UInt8} {r : PresentationResult} :
    decode bytes = .ok r ↔ At bytes 0 (Wire.result .little r) := by
  simp only [decode, bind_eq_ok, failIf_eq_ok, readU16_eq_ok, pure_eq_ok, Except.ok.injEq]
  constructor
  · rintro ⟨-, -, code, ⟨-, h0⟩, result, hresult, why, ⟨-, h2⟩, reason, hreason, ys, hys, s, hs, rfl⟩
    rw [at_result, ← PresentationResultCode.tryFrom_eq_ok hresult,
      ← PresentationRejectReason.tryFrom_eq_ok hreason]
    exact ⟨h0, h2, SyntaxId.at_of_slice rfl hys hs⟩
  · intro h
    have hl := h.length_le (Nat.zero_le _)
    rw [length_result] at hl
    obtain ⟨h0, h2, h4⟩ := at_result.mp h
    exact ⟨(), by omega, _, ⟨by omega, h0⟩, _, PresentationResultCode.tryFrom_toUInt16 _, _,
      ⟨by omega, h2⟩, _, PresentationRejectReason.tryFrom_toUInt16 _, _,
      SyntaxId.slice_of_at rfl h4, _, SyntaxId.decode_encode _, rfl⟩

theorem returns_decode (bytes : List UInt8) : Returns (decode bytes) := by
  refine .bind (.failIf _ _) fun _ hl => ?_
  rw [failIf_eq_ok] at hl
  refine .bind (.readU16 (by omega)) fun _ _ => ?_
  refine .bind (PresentationResultCode.returns_tryFrom _) fun _ _ => ?_
  refine .bind (.readU16 (by omega)) fun _ _ => ?_
  refine .bind (PresentationRejectReason.returns_tryFrom _) fun _ _ => ?_
  refine .bind (.slice (by omega) (by omega)) fun _ _ => ?_
  exact .bind (SyntaxId.returns_decode _) fun _ _ => .ok _

end PresentationResult

namespace BindAckPdu

theorem length_flatMap_result (rs : List PresentationResult) :
    (rs.flatMap (Wire.result .little)).length = rs.length * 24 :=
  length_flatMap_of_length PresentationResult.length_result rs

/-- `count` results are read from where they are. -/
theorem decodeResults_eq_ok {bytes : List UInt8} {count offset stop : Nat}
    {rs : List PresentationResult} :
    decodeResults bytes count offset = .ok (rs, stop) ↔ rs.length = count ∧
      At bytes offset (rs.flatMap (Wire.result .little)) ∧ stop = offset + rs.length * 24 := by
  induction count generalizing offset stop rs with
  | zero =>
    simp only [decodeResults, pure_eq_ok, Except.ok.injEq, Prod.mk.injEq, List.length_eq_zero_iff]
    constructor
    · rintro ⟨rfl, rfl⟩
      exact ⟨rfl, at_nil _ _, rfl⟩
    · rintro ⟨rfl, -, rfl⟩
      exact ⟨rfl, rfl⟩
  | succ count ih =>
    simp only [decodeResults, bind_eq_ok, failIf_eq_ok, slice_eq_ok, PresentationResult.decode_eq_ok,
      Prod.exists, ih, pure_eq_ok, Except.ok.injEq, Prod.mk.injEq]
    constructor
    · rintro ⟨-, -, ys, ⟨-, -, hl, hys⟩, r, hr, rest, _, ⟨rfl, hat, rfl⟩, rfl, rfl⟩
      have hr : ys = Wire.result .little r :=
        hr.eq_of_length (by rw [PresentationResult.length_result]; omega)
      refine ⟨rfl, at_append.mpr ⟨hr ▸ hys, ?_⟩, by rw [List.length_cons]; omega⟩
      rwa [PresentationResult.length_result]
    · rintro ⟨hlen, hat, rfl⟩
      cases rs with
      | nil => cases hlen
      | cons r rest =>
        rw [List.flatMap_cons, at_append, PresentationResult.length_result] at hat
        have hl := hat.1.length_le_of_pos (by rw [PresentationResult.length_result]; omega)
        rw [PresentationResult.length_result] at hl
        exact ⟨(), by omega, _,
          ⟨by omega, hl, by rw [PresentationResult.length_result]; omega, hat.1⟩, r, at_zero_self _,
          rest, _, ⟨Nat.succ.inj hlen, hat.2, rfl⟩, rfl, by rw [List.length_cons]; omega⟩

theorem returns_decodeResults (bytes : List UInt8) (count offset : Nat) :
    Returns (decodeResults bytes count offset) := by
  induction count generalizing offset with
  | zero => exact .ok _
  | succ count ih =>
    refine .bind (.failIf _ _) fun _ hl => ?_
    rw [failIf_eq_ok] at hl
    refine .bind (.slice (by omega) (by omega)) fun _ _ => ?_
    refine .bind (PresentationResult.returns_decode _) fun _ _ => ?_
    exact .bind (ih _) fun _ _ => .ok _

/-- The fields of a bind ack at their offsets. -/
theorem at_bindAck {bytes : List UInt8} {ack : BindAckPdu} (filler : Wire.AckFiller ack) :
    At bytes 0 (Wire.bindAck .little ack filler) ↔ At bytes 0 (u16Bytes .little ack.maxXmitFrag) ∧
      At bytes 2 (u16Bytes .little ack.maxRecvFrag) ∧ At bytes 4 (u32Bytes .little ack.assocGroupId) ∧
      At bytes 8 (u16Bytes .little (UInt16.ofNat ack.secondaryAddr.length)) ∧
      At bytes 10 ack.secondaryAddr ∧ At bytes (10 + ack.secondaryAddr.length) filler.pad ∧
      At bytes (10 + ack.secondaryAddr.length + filler.pad.length) [UInt8.ofNat ack.results.length] ∧
      At bytes (10 + ack.secondaryAddr.length + filler.pad.length + 1) filler.reserved ∧
      At bytes (10 + ack.secondaryAddr.length + filler.pad.length + 4)
        (ack.results.flatMap (Wire.result .little)) := by
  simp only [Wire.bindAck, at_append, List.length_append, length_u16Bytes, length_u32Bytes,
    List.length_cons, List.length_nil, filler.length_reserved, Nat.reduceAdd, and_assoc, Nat.zero_add]

theorem length_bindAck {ack : BindAckPdu} (filler : Wire.AckFiller ack) :
    (Wire.bindAck .little ack filler).length =
      14 + ack.secondaryAddr.length + filler.pad.length + ack.results.length * 24 := by
  simp only [Wire.bindAck, List.length_append, length_u16Bytes, length_u32Bytes, List.length_cons,
    List.length_nil, filler.length_reserved, length_flatMap_result]
  omega

theorem align4_filler {ack : BindAckPdu} (filler : Wire.AckFiller ack) :
    align4 3 (10 + ack.secondaryAddr.length) = 10 + ack.secondaryAddr.length + filler.pad.length := by
  have := filler.pad_lt
  have := filler.aligned
  rw [align4_three]
  omega

/-- The bytes of an ack that carry nothing, where they are. -/
theorem exists_filler {bytes : List UInt8} (ack : BindAckPdu)
    (h : align4 3 (10 + ack.secondaryAddr.length) + 4 ≤ bytes.length) :
    ∃ filler : Wire.AckFiller ack, At bytes (10 + ack.secondaryAddr.length) filler.pad ∧
      At bytes (10 + ack.secondaryAddr.length + filler.pad.length + 1) filler.reserved := by
  rw [align4_three] at h
  have hpad : ((bytes.drop (10 + ack.secondaryAddr.length)).take
      ((4 - (10 + ack.secondaryAddr.length) % 4) % 4)).length =
        (4 - (10 + ack.secondaryAddr.length) % 4) % 4 := by
    rw [List.length_take, List.length_drop]
    omega
  have hreserved : ((bytes.drop (10 + ack.secondaryAddr.length +
      (4 - (10 + ack.secondaryAddr.length) % 4) % 4 + 1)).take 3).length = 3 := by
    rw [List.length_take, List.length_drop]
    omega
  refine ⟨⟨_, _, by rw [hpad]; omega, by rw [hpad]; omega, hreserved⟩, at_take_drop _ _ _, ?_⟩
  dsimp only
  rw [hpad]
  exact at_take_drop _ _ _

/-- A bind ack is decoded from exactly its wire forms. -/
theorem decode_eq_ok {bytes : List UInt8} {ack : BindAckPdu} :
    decode bytes = .ok ack ↔
      Wire.Countable ack ∧ ∃ filler, bytes = Wire.bindAck .little ack filler := by
  simp only [decode, bind_eq_ok, failIf_eq_ok, readU16_eq_ok, readU32_eq_ok, index_eq_ok,
    slice_eq_ok, Prod.exists, decodeResults_eq_ok, pure_eq_ok, Except.ok.injEq]
  constructor
  · rintro ⟨-, -, x, ⟨-, h0⟩, r, ⟨-, h2⟩, g, ⟨-, h4⟩, len, ⟨-, h8⟩, -, hend, -, hlist, count,
      hcount, rs, _, ⟨hrs, hat, rfl⟩, -, hstop, sec, ⟨-, -, hsec, h10⟩, rfl⟩
    have hsecLen : sec.length = len.toNat := by omega
    have := len.toNat_lt
    have := count.toNat_lt
    rw [← hsecLen] at hlist hcount hat hstop
    obtain ⟨filler, hpad, hreserved⟩ := exists_filler ⟨x, r, g, sec, rs⟩ (Nat.le_of_not_lt hlist)
    have halign := align4_filler filler
    dsimp only at halign hpad hreserved
    rw [halign] at hcount hat hstop
    have hstop := Classical.not_not.mp hstop
    refine ⟨⟨by dsimp only; omega, by dsimp only; omega⟩, filler, At.eq_of_length
      ((at_bindAck filler).mpr ⟨h0, h2, h4, ?_, h10, hpad, ?_, hreserved, hat⟩) ?_⟩
    · dsimp only
      rw [hsecLen, UInt16.ofNat_toNat]
      exact h8
    · dsimp only
      rw [hrs, UInt8.ofNat_toNat]
      exact hcount
    · rw [length_bindAck]
      dsimp only
      omega
  · rintro ⟨hc, filler, rfl⟩
    have hlen := length_bindAck filler
    obtain ⟨h0, h2, h4, h8, h10, -, hcount, -, hat⟩ := (at_bindAck filler).mp (at_zero_self _)
    have hsec : (UInt16.ofNat ack.secondaryAddr.length).toNat = ack.secondaryAddr.length := by
      have := hc.secondaryAddr
      rw [UInt16.toNat_ofNat']
      omega
    have hrs : (UInt8.ofNat ack.results.length).toNat = ack.results.length := by
      have := hc.results
      rw [UInt8.toNat_ofNat']
      omega
    have halign := align4_filler filler
    refine ⟨(), by omega, _, ⟨by omega, h0⟩, _, ⟨by omega, h2⟩, _, ⟨by omega, h4⟩, _,
      ⟨by omega, h8⟩, ?_⟩
    rw [hsec, halign]
    exact ⟨(), by omega, (), by omega, _, hcount, _, _, ⟨hrs.symm, hat, rfl⟩, (), by omega, _,
      ⟨by omega, by omega, by omega, h10⟩, rfl⟩

theorem returns_decode (bytes : List UInt8) : Returns (decode bytes) := by
  refine .bind (.failIf _ _) fun _ hl => ?_
  rw [failIf_eq_ok] at hl
  refine .bind (.readU16 (by omega)) fun _ _ => .bind (.readU16 (by omega)) fun _ _ => ?_
  refine .bind (.readU32 (by omega)) fun _ _ => .bind (.readU16 (by omega)) fun len _ => ?_
  refine .bind (.failIf _ _) fun _ hend => .bind (.failIf _ _) fun _ hlist => ?_
  rw [failIf_eq_ok] at hend hlist
  refine .bind (.index (by omega)) fun _ _ => .bind (returns_decodeResults _ _ _) fun _ _ => ?_
  refine .bind (.failIf _ _) fun _ _ => .bind (.slice (by omega) (by omega)) fun _ _ => .ok _

end BindAckPdu

end Rpce
