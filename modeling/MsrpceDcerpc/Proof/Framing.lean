import MsrpceDcerpc.Lib.Frame
import MsrpceDcerpc.Proof.Stream

/-!
# PDUs as the frames of a stream

The header of a PDU says how long it is, so that PDUs are the frames of a byte
stream (`pduFraming`). The transport over a pipe of `std::io` cuts its input
into these frames, however the pipe hands it out (`delivers_frames`): one frame
at the front of the input is delivered (`recvPdu_frame`), and where there is
none `recv_pdu` fails, with the error and the rest of the input that `ending`
says (`recvPdu_ending`).
-/

namespace Rpce

open Rust Endian Segment Eff StdIo

/-! ## The pipe -/

section Pipe

variable {T ω : Type} [Read T] [Write T] [Endpoint ω] {endpoint : T → ω}

open Endpoint

namespace StdIoNamedPipe

theorem readExact_of_ok {p : StdIoNamedPipe T} {n : Nat}
    {bytes : { bytes : List UInt8 // bytes.length = n }} {t' : T}
    (h : StdIo.readExact p.inner n = (.ok bytes, t')) :
    ∃ v : Vector UInt8 n, NamedPipe.readExact p n = (.ok v, ⟨t'⟩) ∧ v.toList = bytes.val := by
  refine ⟨⟨bytes.val.toArray, bytes.property⟩, ?_, rfl⟩
  simp only [NamedPipe.readExact, readExact, h]

theorem readExact_of_error {p : StdIoNamedPipe T} {n : Nat} {e : IoError} {t' : T}
    (h : StdIo.readExact p.inner n = (.error e, t')) :
    (NamedPipe.readExact p n : Except Error (Vector UInt8 n) × _) =
      (.error (.transport ("named pipe read failed: " ++ e.text)), ⟨t'⟩) := by
  simp only [NamedPipe.readExact, readExact, h]

/-- The pipe reads what can be read from the endpoint. -/
theorem readsNext (h : Reaches endpoint) :
    ReadsNext fun p : StdIoNamedPipe T => unread (endpoint p.inner) where
  next {p n v p'} hr := by
    rcases hread : StdIo.readExact p.inner n with ⟨e | bytes, t'⟩
    · cases (readExact_of_error hread).symm.trans hr
    · obtain ⟨v', hv, hval⟩ := readExact_of_ok hread
      cases hv.symm.trans hr
      obtain ⟨hbytes, -, hskip⟩ := h.readExact_ok hread
      rw [hval, hbytes, hskip, unread_skip, List.take_append_drop]

theorem readsAll (h : Reaches endpoint) (hp : ReadsOn endpoint) :
    ReadsAll fun p : StdIoNamedPipe T => unread (endpoint p.inner) where
  toReadsNext := readsNext h
  available {p n} hn := by
    obtain ⟨bytes, t', hread⟩ := exists_readExact h hp p.inner hn
    obtain ⟨v, hv, -⟩ := readExact_of_ok hread
    exact ⟨v, _, hv⟩

end StdIoNamedPipe

namespace NcacnNpTransport

/-- What can be read through a transport. -/
def unreadOf (endpoint : T → ω) (t : NcacnNpTransport (StdIoNamedPipe T)) : List UInt8 :=
  unread (endpoint t.pipe.inner)

/-- `read_exact` past the end of the input. -/
theorem readExact_of_end (h : Reaches endpoint) (hp : ReadsToEnd endpoint)
    {t : NcacnNpTransport (StdIoNamedPipe T)} {n : Nat} (hn : (unreadOf endpoint t).length < n) :
    ∃ t', (readExact n).exec t = (.error (.err (.transport ("named pipe read failed: " ++
      unexpectedEof.text))), t') ∧ unreadOf endpoint t' = [] := by
  obtain ⟨inner, hread, hend⟩ := readExact_at_end h hp t.pipe.inner hn
  refine ⟨⟨⟨inner⟩⟩, ?_, ?_⟩
  · show (mapErr ((NamedPipe.readExact t.pipe n).1.map Vector.toList) id, NcacnNpTransport.mk
      (NamedPipe.readExact t.pipe n).2) = _
    rw [StdIoNamedPipe.readExact_of_error hread]
    rfl
  · show unread (endpoint inner) = []
    rw [hend, unread_skip, List.drop_length]

end NcacnNpTransport

end Pipe

/-! ## The framing -/

section

variable [DataRepresentation]

/-- The length of the PDU that `bytes` begins with, from its header. -/
def pduSize (bytes : List UInt8) : Option Nat :=
  match PduHeader.decode bytes with
  | .error _ => none
  | .ok header => if headerLen ≤ header.fragLength.toNat then some header.fragLength.toNat else none

theorem pduSize_eq_some {bytes : List UInt8} {n : Nat} :
    pduSize bytes = some n ↔
      ∃ header, PduHeader.decode bytes = .ok header ∧ n = header.fragLength.toNat ∧ 16 ≤ n := by
  have h16 : headerLen = 16 := rfl
  unfold pduSize
  constructor
  · intro h
    split at h
    · cases h
    rename_i header hdecode
    split at h
    · cases h
      exact ⟨header, hdecode, rfl, by omega⟩
    · cases h
  · rintro ⟨header, hdecode, rfl, hle⟩
    rw [hdecode]
    exact if_pos hle

theorem PduHeader.length_of_decode {bytes : List UInt8} {header : PduHeader}
    (h : decode bytes = .ok header) : 16 ≤ bytes.length := by
  have hl := (decode_eq_ok.mp h).1.length_le (Nat.zero_le _)
  rwa [length_encode, Nat.zero_add] at hl

/-- Only the first 16 bytes matter to a header. -/
theorem PduHeader.decode_congr {bytes bytes' : List UInt8} {header : PduHeader}
    (h : decode bytes = .ok header) (htake : bytes'.take 16 = bytes.take 16) :
    decode bytes' = .ok header := by
  have hl := length_of_decode h
  have hl' : 16 ≤ bytes'.length := by
    have := congrArg List.length htake
    rw [List.length_take, List.length_take] at this
    omega
  rwa [← decode_take_eq_ok hl', htake, decode_take_eq_ok hl]

/-- PDUs, as frames. -/
def pduFraming : Framing UInt8 where
  size := pduSize
  size_pos h := by
    obtain ⟨-, -, -, hle⟩ := pduSize_eq_some.mp h
    omega
  size_append ys h := by
    obtain ⟨header, hdecode, hn, hle⟩ := pduSize_eq_some.mp h
    have hl := PduHeader.length_of_decode hdecode
    exact pduSize_eq_some.mpr
      ⟨header, PduHeader.decode_congr hdecode (List.take_append_of_le_length hl), hn, hle⟩
  size_take h _ := by
    obtain ⟨header, hdecode, hn, hle⟩ := pduSize_eq_some.mp h
    refine pduSize_eq_some.mpr ⟨header, PduHeader.decode_congr hdecode ?_, hn, hle⟩
    rw [List.take_take, Nat.min_eq_left hle]

/-- A frame has the length its header says. -/
theorem isFrame_iff {bytes : List UInt8} : pduFraming.IsFrame bytes ↔
    ∃ header, PduHeader.decode bytes = .ok header ∧ bytes.length = header.fragLength.toNat ∧
      16 ≤ bytes.length := pduSize_eq_some

/-- What the decoder accepts is one frame. -/
theorem isFrame_of_decode {bytes : List UInt8} {packet : PduPacket}
    (h : PduPacket.decode bytes = .ok packet) : pduFraming.IsFrame bytes :=
  isFrame_iff.mpr ⟨packet.header, PduPacket.header_of_decode h⟩

/-- What `recv_pdu` ends with where no frame is next, and what it leaves of the
input `rest`. -/
def ending (rest : List UInt8) : Error × List UInt8 :=
  let truncated := Error.transport ("named pipe read failed: " ++ unexpectedEof.text)
  if rest.length < headerLen then (truncated, [])
  else match (PduHeader.returns_decode (rest.take headerLen)).toExcept with
    | .error e => (e, rest.drop headerLen)
    | .ok header =>
      if header.fragLength.toNat < headerLen then
        (.invalidPdu "fragment length is smaller than common header", rest.drop headerLen)
      else (truncated, [])

/-! ## Receiving -/

omit [DataRepresentation] in
/-- What is delivered before an error is determined. -/
theorem RpcClient.Delivers.prefix_of_error {T : Type} [RpcTransport T] {t t₁ t₂ t' : T} {e : Error}
    {pdus delivered : List (List UInt8)} (h : Delivers t pdus t₁)
    (he : RpcTransport.recvPdu t₁ = (.error e, t₂)) (hd : Delivers t delivered t') :
    delivered <+: pdus := by
  induction hd generalizing pdus with
  | nil => exact List.nil_prefix
  | cons hr _ ih =>
    cases h with
    | nil => cases he.symm.trans hr
    | cons hr' hrest =>
      cases hr'.symm.trans hr
      exact (List.cons_prefix_cons).mpr ⟨rfl, ih hrest⟩

namespace NcacnNpTransport

variable {P : Type} [NamedPipe P]

theorem rpcRecvPdu_eq_error {t t' : NcacnNpTransport P} {e : Error} :
    RpcTransport.recvPdu t = (.error e, t') ↔ recvPdu.exec t = (.error (.err e), t') := by
  show ((alwaysReturns_recvPdu t).toExcept, (recvPdu.exec t).2) = _ ↔ _
  rw [Prod.mk.injEq, Returns.toExcept_eq_error, Prod.ext_iff]

/-- A frame at the front of the input is delivered. -/
theorem recvPdu_frame {input : P → List UInt8} (hp : ReadsAll input)
    {t : NcacnNpTransport P} {bytes rest : List UInt8} (hframe : pduFraming.IsFrame bytes)
    (h : input t.pipe = bytes ++ rest) :
    ∃ t', RpcTransport.recvPdu t = (.ok bytes, t') ∧ input t'.pipe = rest := by
  obtain ⟨header, hheader, hlen, hle⟩ := isFrame_iff.mp hframe
  have hl : (bytes.take 16).length = 16 := List.length_take_of_le hle
  have hl' : (bytes.drop 16).length = header.fragLength.toNat - 16 := by rw [List.length_drop, hlen]
  rw [← List.take_append_drop 16 bytes, List.append_assoc] at h
  obtain ⟨t₁, hread, hinput⟩ := readExact_of_input hp h
  obtain ⟨t', hread', hinput'⟩ := readExact_of_input hp hinput
  rw [hl] at hread
  rw [hl'] at hread'
  exact ⟨t', rpcRecvPdu_eq_ok.mpr (recvPdu_eq_ok.mpr ⟨_, _, t₁, header, hread,
    (PduHeader.decode_take_eq_ok hle).mpr hheader, hlen ▸ hle, hread',
    (List.take_append_drop 16 bytes).symm⟩), hinput'⟩

open RpcClient in
theorem delivers_of_isFrame {input : P → List UInt8} (hp : ReadsAll input)
    {t : NcacnNpTransport P} {pdus : List (List UInt8)} {tail : List UInt8}
    (hframes : ∀ bytes ∈ pdus, pduFraming.IsFrame bytes) (h : input t.pipe = pdus.flatten ++ tail) :
    ∃ t', Delivers t pdus t' ∧ input t'.pipe = tail := by
  induction pdus generalizing t with
  | nil => exact ⟨t, .nil t, h⟩
  | cons bytes pdus ih =>
    obtain ⟨hframe, hrest⟩ := List.forall_mem_cons.mp hframes
    rw [List.flatten_cons, List.append_assoc] at h
    obtain ⟨t₁, hr, hinput⟩ := recvPdu_frame hp hframe h
    obtain ⟨t', hd, hinput'⟩ := ih hrest hinput
    exact ⟨t', .cons hr hd, hinput'⟩

section Ending

variable {T ω : Type} [Read T] [Write T] [Endpoint ω] {endpoint : T → ω}

/-- Where no frame is next `recv_pdu` fails. -/
theorem recvPdu_ending (h : Reaches endpoint) (hp : ReadsToEnd endpoint)
    {t : NcacnNpTransport (StdIoNamedPipe T)} (hnext : pduFraming.next (unreadOf endpoint t) = none) :
    ∃ t', RpcTransport.recvPdu t = (.error (ending (unreadOf endpoint t)).1, t') ∧
      unreadOf endpoint t' = (ending (unreadOf endpoint t)).2 := by
  have h16 : headerLen = 16 := rfl
  generalize hrest : unreadOf endpoint t = rest at hnext
  rw [ending]
  split
  · rename_i hlt
    obtain ⟨t', hread, hend⟩ := readExact_of_end h hp (hrest ▸ hlt)
    exact ⟨t', rpcRecvPdu_eq_error.mpr (exec_bind_of_error hread), hend⟩
  rename_i hle
  have hl : (rest.take headerLen).length = headerLen := List.length_take_of_le (Nat.le_of_not_lt hle)
  obtain ⟨t₁, hread, hinput⟩ := readExact_of_input (StdIoNamedPipe.readsAll h hp.toReadsOn) (t := t)
    (hrest.trans (List.take_append_drop headerLen rest).symm)
  rw [hl] at hread
  split
  · rename_i e he
    rw [Returns.toExcept_eq_error] at he
    exact ⟨t₁, rpcRecvPdu_eq_error.mpr ((exec_bind_of_ok hread).trans
      (exec_lift_bind_of_error he _)), hinput⟩
  rename_i header hheader
  rw [Returns.toExcept_eq_ok] at hheader
  split
  · rename_i hlt
    exact ⟨t₁, rpcRecvPdu_eq_error.mpr ((exec_bind_of_ok hread).trans
      ((exec_lift_bind_of_ok hheader _).trans (exec_lift_bind_of_error (failIf_of _ hlt) _))), hinput⟩
  rename_i hge
  have hsize : pduFraming.size rest = some header.fragLength.toNat :=
    pduSize_eq_some.mpr ⟨header, (PduHeader.decode_take_eq_ok (by omega)).mp hheader, rfl, by omega⟩
  have hlong : rest.length < header.fragLength.toNat := by
    by_contra hle'
    rw [Framing.next, hsize] at hnext
    dsimp only at hnext
    rw [if_pos (Nat.le_of_not_lt hle')] at hnext
    cases hnext
  obtain ⟨hok, hlen, -⟩ := resize_header hl (n := header.fragLength.toNat) (by omega)
  obtain ⟨t', hread', hend⟩ := readExact_of_end h hp (t := t₁) (n := header.fragLength.toNat - 16) (by
    show (unreadOf endpoint t₁).length < _
    rw [show unreadOf endpoint t₁ = rest.drop headerLen from hinput, List.length_drop]
    omega)
  rw [← hlen] at hread'
  refine ⟨t', rpcRecvPdu_eq_error.mpr ((exec_bind_of_ok hread).trans
    ((exec_lift_bind_of_ok hheader _).trans ((exec_lift_bind_of_ok (failIf_of_not _ hge) _).trans
      ((exec_lift_bind_of_ok hok _).trans (exec_bind_of_error hread'))))), hend⟩

open RpcClient in
/-- The transport over a pipe of `std::io` delivers the frames of the input, one
by one, and then fails as `ending` says. -/
theorem delivers_frames (h : Reaches endpoint) (hp : ReadsToEnd endpoint)
    (t : NcacnNpTransport (StdIoNamedPipe T)) :
    (∃ t₁ t₂, Delivers t (pduFraming.frames (unreadOf endpoint t)).1 t₁ ∧
      unreadOf endpoint t₁ = (pduFraming.frames (unreadOf endpoint t)).2 ∧
      RpcTransport.recvPdu t₁ =
        (.error (ending (pduFraming.frames (unreadOf endpoint t)).2).1, t₂) ∧
      unreadOf endpoint t₂ = (ending (pduFraming.frames (unreadOf endpoint t)).2).2) ∧
    ∀ delivered t', Delivers t delivered t' →
      delivered <+: (pduFraming.frames (unreadOf endpoint t)).1 := by
  obtain ⟨t₁, hd, hrest⟩ := delivers_of_isFrame (StdIoNamedPipe.readsAll h hp.toReadsOn)
    (Framing.isFrame_of_mem_frames (F := pduFraming) (unreadOf endpoint t))
    (Framing.flatten_frames (unreadOf endpoint t)).symm
  have hnext : pduFraming.next (unreadOf endpoint t₁) = none := by
    rw [show unreadOf endpoint t₁ = _ from hrest]
    exact Framing.next_rest _
  obtain ⟨t₂, hr, hend⟩ := recvPdu_ending h hp hnext
  rw [show unreadOf endpoint t₁ = _ from hrest] at hr hend
  refine ⟨⟨t₁, t₂, hd, hrest, hr, hend⟩, fun delivered t' hd' => ?_⟩
  exact hd.prefix_of_error hr hd'

end Ending

end NcacnNpTransport

end

/-! ## A slow stream -/

section

open Standard RpcClient

namespace Standard.SlowStream

variable {ω : Type} [Endpoint ω]

theorem read_of_due {s : SlowStream ω} (h : s.due ≠ 0) (n : Nat) :
    (Read.read s n : _ × SlowStream ω) = (.error interruption, { s with due := s.due - 1 }) := by
  simp only [Read.read, if_neg h]

theorem write_of_due {s : SlowStream ω} (h : s.due ≠ 0) (bytes : List UInt8) :
    (Write.write s bytes : _ × SlowStream ω) = (.error interruption, { s with due := s.due - 1 }) := by
  simp only [Write.write, if_neg h]

theorem reaches : Reaches (SlowStream.endpoint : SlowStream ω → ω) where
  read_ok {s n bytes s'} h := by
    by_cases hdue : s.due = 0
    · simp only [Read.read, if_pos hdue] at h
      cases h
      exact ⟨(List.take_eq_take_iff.mpr (by rw [List.length_take]; omega)), rfl⟩
    · cases (read_of_due hdue n).symm.trans h
  read_error {s n e s'} h := by
    by_cases hdue : s.due = 0
    · simp only [Read.read, if_pos hdue] at h
      cases h
    · cases (read_of_due hdue n).symm.trans h
      rfl
  write_ok {s bytes n s'} h := by
    by_cases hdue : s.due = 0
    · simp only [Write.write, if_pos hdue] at h
      cases h
      rfl
    · cases (write_of_due hdue bytes).symm.trans h
  write_error {s bytes e s'} h := by
    by_cases hdue : s.due = 0
    · simp only [Write.write, if_pos hdue] at h
      cases h
    · cases (write_of_due hdue bytes).symm.trans h
      rfl
  flush _ := rfl

theorem interrupted_of_read {s s' : SlowStream ω} {n : Nat} {e : IoError}
    (h : Read.read s n = (.error e, s')) : e.interrupted = true := by
  by_cases hdue : s.due = 0
  · simp only [Read.read, if_pos hdue] at h
    cases h
  · cases (read_of_due hdue n).symm.trans h
    rfl

theorem readsToEnd : ReadsToEnd (SlowStream.endpoint : SlowStream ω → ω) where
  progress {s n bytes s'} hn hne h := by
    by_cases hdue : s.due = 0
    · simp only [Read.read, if_pos hdue] at h
      cases h
      have hpos := List.length_pos_iff.mpr hne
      refine List.length_pos_iff.mp ?_
      rw [List.length_take]
      omega
    · cases (read_of_due hdue n).symm.trans h
  interrupted _ h := interrupted_of_read h
  at_end _ h := interrupted_of_read h

theorem writesOn : WritesOn (SlowStream ω) where
  progress {s bytes n s'} hne h := by
    by_cases hdue : s.due = 0
    · simp only [Write.write, if_pos hdue] at h
      cases h
      have hpos := List.length_pos_iff.mpr hne
      dsimp only
      omega
    · cases (write_of_due hdue bytes).symm.trans h
  interrupted {s bytes e s'} h := by
    by_cases hdue : s.due = 0
    · simp only [Write.write, if_pos hdue] at h
      cases h
    · cases (write_of_due hdue bytes).symm.trans h
      rfl
  flush _ := rfl

end Standard.SlowStream

/-- The dialogue and two bytes more, read five bytes at a time. -/
def slowDialogue : NcacnNpTransport (StdIoNamedPipe (SlowStream Buffers)) :=
  ⟨⟨{ endpoint := ⟨dialogue.flatten ++ [5, 0], []⟩, step := 4, every := 1, due := 2 }⟩⟩

/-- The PDUs of the dialogue are delivered, and then the stream ends in a
header. -/
theorem NcacnNpTransport.delivers_frames_dialogue : ∃ t₁ t₂, Delivers slowDialogue dialogue t₁ ∧
    RpcTransport.recvPdu t₁ =
      (.error (.transport "named pipe read failed: failed to fill whole buffer"), t₂) := by
  have hframes : pduFraming.frames (unreadOf SlowStream.endpoint slowDialogue) = (dialogue, [5, 0]) := by
    have hdialogue : ∀ bytes ∈ dialogue, pduFraming.IsFrame bytes :=
      List.forall_mem_cons.mpr ⟨by decide +kernel, List.forall_mem_singleton.mpr (by decide +kernel)⟩
    have hrest : pduFraming.frames [5, 0] = ([], [5, 0]) := Framing.frames_of_none (by decide)
    have happend := Framing.frames_flatten_append hdialogue [5, 0]
    rwa [hrest, List.append_nil] at happend
  obtain ⟨⟨t₁, t₂, hd, -, hr, -⟩, -⟩ :=
    delivers_frames SlowStream.reaches SlowStream.readsToEnd slowDialogue
  rw [hframes] at hd hr
  exact ⟨t₁, t₂, hd, hr⟩

end

end Rpce
