import MsrpceDcerpc.Spec.Standard
import MsrpceDcerpc.Proof.Packet
import MsrpceDcerpc.Proof.Simulation

/-!
# PDUs on a byte stream

`recv_pdu` of the transport over a named pipe reads a header, and then what the
header says (`recvPdu_eq_ok`). Where the input begins with a PDU that
`PduPacket.decode` accepts that is this PDU (`recvPdu_of_decode`), so that the
transport delivers the PDUs of its input in order and a client over it does
what a client over the messages does; and what it delivers from any input is
what its own header says (`recvPdu_sound`). Together they are
`NcacnNpTransport.framing`.
-/

namespace Rpce

open Rust Endian Segment Eff

/-! ## Headers -/

section

variable [DataRepresentation]

/-- A header is read from its first 16 bytes. -/
theorem PduHeader.decode_append_eq_ok {bytes rest : List UInt8} {h : PduHeader}
    (hl : bytes.length = 16) : decode (bytes ++ rest) = .ok h ↔ decode bytes = .ok h := by
  rw [decode_eq_ok, decode_eq_ok, at_zero_append_iff (by rw [length_encode, hl])]

theorem PduHeader.decode_take_eq_ok {bytes : List UInt8} {h : PduHeader} (hl : 16 ≤ bytes.length) :
    decode (bytes.take 16) = .ok h ↔ decode bytes = .ok h := by
  have happend : decode (bytes.take 16 ++ bytes.drop 16) = .ok h ↔ decode (bytes.take 16) = .ok h :=
    decode_append_eq_ok (List.length_take_of_le hl)
  rw [List.take_append_drop] at happend
  exact happend.symm

end

namespace NcacnNpTransport

variable {P : Type} [NamedPipe P]

/-! ## Receiving -/

theorem alwaysReturns_readExact (n : Nat) :
    AlwaysReturns (readExact n : Eff (Stop Error) (NcacnNpTransport P) _) := fun _ => .mapErr _ _

theorem length_of_readExact {n : Nat} {t t' : NcacnNpTransport P} {bytes : List UInt8}
    (h : (readExact n).exec t = (.ok bytes, t')) :
    bytes.length = n ∧ ∃ v, NamedPipe.readExact t.pipe n = (.ok v, t'.pipe) ∧ bytes = v.toList := by
  have hresult : (mapErr ((NamedPipe.readExact t.pipe n).1.map Vector.toList) id : Result _) =
      .ok bytes := congrArg Prod.fst h
  have hpipe : (NamedPipe.readExact t.pipe n).2 = t'.pipe := congrArg (·.2.pipe) h
  rcases hr : NamedPipe.readExact t.pipe n with ⟨e | v, p⟩
  · rw [hr] at hresult
    cases hresult
  · rw [hr] at hresult hpipe
    cases hresult
    cases hpipe
    exact ⟨v.length_toList, v, rfl, rfl⟩

theorem input_of_readExact {input : P → List UInt8} (hp : ReadsNext input) {n : Nat}
    {t t' : NcacnNpTransport P} {bytes : List UInt8} (h : (readExact n).exec t = (.ok bytes, t')) :
    input t.pipe = bytes ++ input t'.pipe := by
  obtain ⟨-, v, hread, rfl⟩ := length_of_readExact h
  exact hp.next hread

/-- The next bytes of the input are read. -/
theorem readExact_of_input {input : P → List UInt8} (hp : ReadsAll input)
    {t : NcacnNpTransport P} {bytes rest : List UInt8} (h : input t.pipe = bytes ++ rest) :
    ∃ t', (readExact bytes.length).exec t = (.ok bytes, t') ∧ input t'.pipe = rest := by
  have hle : bytes.length ≤ (input t.pipe).length := by
    rw [h, List.length_append]
    exact Nat.le_add_right _ _
  obtain ⟨v, p', hread⟩ := hp.available hle
  have hnext := hp.next hread
  obtain ⟨hbytes, rfl⟩ := List.append_inj (h.symm.trans hnext) v.length_toList.symm
  refine ⟨⟨p'⟩, ?_, rfl⟩
  show (mapErr ((NamedPipe.readExact t.pipe bytes.length).1.map Vector.toList) id,
    NcacnNpTransport.mk (NamedPipe.readExact t.pipe bytes.length).2) = _
  rw [hread]
  exact congrArg (Except.ok ·, NcacnNpTransport.mk p') hbytes.symm

/-- The buffer of `recv_pdu`: the header, and room for the rest of the PDU. -/
theorem resize_header {headerBytes : List UInt8} {n : Nat} (hl : headerBytes.length = 16)
    (hle : 16 ≤ n) :
    (sliceFrom (resize headerBytes n 0) headerLen : Result (List UInt8)) =
        .ok ((resize headerBytes n 0).drop 16) ∧
      ((resize headerBytes n 0).drop 16).length = n - 16 ∧
      (resize headerBytes n 0).take headerLen = headerBytes := by
  refine ⟨sliceFrom_eq_ok.mpr ⟨by rw [length_resize]; exact hle, rfl⟩, ?_, ?_⟩
  · rw [List.length_drop, length_resize]
  · have htake := take_resize (hl.trans_le hle) 0
    rw [hl] at htake
    exact htake

variable [DataRepresentation]

theorem alwaysReturns_recvPdu :
    AlwaysReturns (recvPdu : Eff (Stop Error) (NcacnNpTransport P) _) := by
  refine .bind (alwaysReturns_readExact _) fun headerBytes => ?_
  refine .lift_bind (PduHeader.returns_decode _) fun header _ => ?_
  refine .lift_bind (.failIf _ _) fun _ hle => ?_
  rw [failIf_eq_ok] at hle
  refine .lift_bind (.sliceFrom ?_) fun _ _ => ?_
  · rw [length_resize]
    omega
  · exact .bind (alwaysReturns_readExact _) fun _ => .pure _

/-- What `recv_pdu` reads. -/
theorem recvPdu_eq_ok {t t' : NcacnNpTransport P} {bytes : List UInt8} :
    recvPdu.exec t = (.ok bytes, t') ↔ ∃ headerBytes rest t₁ header,
      (readExact 16).exec t = (.ok headerBytes, t₁) ∧ PduHeader.decode headerBytes = .ok header ∧
      16 ≤ header.fragLength.toNat ∧
      (readExact (header.fragLength.toNat - 16)).exec t₁ = (.ok rest, t') ∧
      bytes = headerBytes ++ rest := by
  constructor
  · intro h
    obtain ⟨headerBytes, t₁, hread, h⟩ := exec_bind_eq_ok h
    obtain ⟨header, hheader, h⟩ := exec_lift_bind_eq_ok h
    obtain ⟨_, hle, h⟩ := exec_lift_bind_eq_ok h
    have hle : 16 ≤ header.fragLength.toNat := Nat.le_of_not_lt (failIf_eq_ok.mp hle)
    obtain ⟨buffer, hslice, h⟩ := exec_lift_bind_eq_ok h
    obtain ⟨hok, hlen, htake⟩ := resize_header (length_of_readExact hread).1 hle
    obtain rfl := Except.ok.inj (hok.symm.trans hslice)
    obtain ⟨rest, t₂, hrest, h⟩ := exec_bind_eq_ok h
    rw [hlen] at hrest
    cases h
    exact ⟨headerBytes, rest, t₁, header, hread, hheader, hle, hrest, by rw [htake]⟩
  · rintro ⟨headerBytes, rest, t₁, header, hread, hheader, hle, hrest, rfl⟩
    obtain ⟨hok, hlen, htake⟩ := resize_header (length_of_readExact hread).1 hle
    have hle' : ¬ header.fragLength.toNat < headerLen := Nat.not_lt.mpr hle
    rw [← hlen] at hrest
    refine (exec_bind_of_ok (x := readExact headerLen) hread).trans ?_
    refine (exec_lift_bind_of_ok hheader _).trans ?_
    refine (exec_lift_bind_of_ok (failIf_of_not _ hle') _).trans ?_
    refine (exec_lift_bind_of_ok hok _).trans ((exec_bind_of_ok hrest).trans ?_)
    rw [htake]
    rfl

instance : RpcTransport (NcacnNpTransport P) where
  sendPdu := sendPdu
  recvPdu t := ((alwaysReturns_recvPdu t).toExcept, (recvPdu.exec t).2)

theorem rpcRecvPdu_eq_ok {t t' : NcacnNpTransport P} {bytes : List UInt8} :
    RpcTransport.recvPdu t = (.ok bytes, t') ↔ recvPdu.exec t = (.ok bytes, t') := by
  show ((alwaysReturns_recvPdu t).toExcept, (recvPdu.exec t).2) = _ ↔ _
  rw [Prod.mk.injEq, Returns.toExcept_eq_ok, Prod.ext_iff]

/-! ## What is delivered -/

section Input

variable {input : P → List UInt8}

/-- What is delivered is the next PDU of the input, as long as its header
says. -/
theorem recvPdu_sound (hp : ReadsNext input) {t t' : NcacnNpTransport P} {bytes : List UInt8}
    (h : RpcTransport.recvPdu t = (.ok bytes, t')) :
    input t.pipe = bytes ++ input t'.pipe ∧ 16 ≤ bytes.length ∧ ∃ header,
      PduHeader.decode bytes = .ok header ∧ bytes.length = header.fragLength.toNat := by
  obtain ⟨headerBytes, rest, t₁, header, hread, hheader, hle, hrest, rfl⟩ :=
    recvPdu_eq_ok.mp (rpcRecvPdu_eq_ok.mp h)
  have hlen := (length_of_readExact hread).1
  have hlen' := (length_of_readExact hrest).1
  have hl : (headerBytes ++ rest).length = header.fragLength.toNat := by
    rw [List.length_append]
    omega
  refine ⟨?_, by omega, header, (PduHeader.decode_append_eq_ok hlen).mpr hheader, hl⟩
  rw [input_of_readExact hp hread, input_of_readExact hp hrest, List.append_assoc]

/-- A PDU at the beginning of the input is delivered. -/
theorem recvPdu_of_decode (hp : ReadsAll input) {t : NcacnNpTransport P} {bytes rest : List UInt8}
    {packet : PduPacket} (hdecode : PduPacket.decode bytes = .ok packet)
    (h : input t.pipe = bytes ++ rest) :
    ∃ t', RpcTransport.recvPdu t = (.ok bytes, t') ∧ input t'.pipe = rest := by
  obtain ⟨hheader, hlen, hle⟩ := PduPacket.header_of_decode hdecode
  have hl : (bytes.take 16).length = 16 := by
    rw [List.length_take]
    omega
  have hl' : (bytes.drop 16).length = packet.header.fragLength.toNat - 16 := by
    rw [List.length_drop, hlen]
  rw [← List.take_append_drop 16 bytes] at hheader
  rw [← List.take_append_drop 16 bytes, List.append_assoc] at h
  obtain ⟨t₁, hread, hinput⟩ := readExact_of_input hp h
  obtain ⟨t', hread', hinput'⟩ := readExact_of_input hp hinput
  rw [hl] at hread
  rw [hl'] at hread'
  exact ⟨t', rpcRecvPdu_eq_ok.mpr (recvPdu_eq_ok.mpr ⟨_, _, t₁, packet.header, hread,
    (PduHeader.decode_append_eq_ok hl).mp hheader, hlen ▸ hle, hread',
    (List.take_append_drop 16 bytes).symm⟩), hinput'⟩

open RpcClient in
/-- The PDUs at the beginning of the input are delivered, and nothing after
them is read. -/
theorem delivers_of_decode (hp : ReadsAll input) {t : NcacnNpTransport P} {pdus : List (List UInt8)}
    {tail : List UInt8} (hdecode : ∀ bytes ∈ pdus, ∃ packet, PduPacket.decode bytes = .ok packet)
    (h : input t.pipe = pdus.flatten ++ tail) :
    ∃ t', Delivers t pdus t' ∧ input t'.pipe = tail := by
  induction pdus generalizing t with
  | nil => exact ⟨t, .nil t, h⟩
  | cons bytes pdus ih =>
    obtain ⟨⟨packet, hpacket⟩, hrest⟩ := List.forall_mem_cons.mp hdecode
    rw [List.flatten_cons, List.append_assoc] at h
    obtain ⟨t₁, hr, hinput⟩ := recvPdu_of_decode hp hpacket h
    obtain ⟨t', hd, hinput'⟩ := ih hrest hinput
    exact ⟨t', .cons hr hd, hinput'⟩

/-- Of an input that begins with a PDU nothing else is delivered. -/
theorem recvPdu_eq_of_decode (hp : ReadsNext input) {t t' : NcacnNpTransport P}
    {bytes rest delivered : List UInt8} {packet : PduPacket}
    (hdecode : PduPacket.decode bytes = .ok packet) (h : input t.pipe = bytes ++ rest)
    (hr : RpcTransport.recvPdu t = (.ok delivered, t')) :
    delivered = bytes ∧ input t'.pipe = rest := by
  obtain ⟨hheader, hlen, hle⟩ := PduPacket.header_of_decode hdecode
  obtain ⟨hinput, hle', header, hheader', hlen'⟩ := recvPdu_sound hp hr
  have happend : (delivered ++ input t'.pipe).take 16 = delivered.take 16 :=
    List.take_append_of_le_length hle'
  have htake : delivered.take 16 = bytes.take 16 := by
    rw [← happend, ← hinput, h, List.take_append_of_le_length (hlen ▸ hle)]
  -- Both lengths are read from the same 16 bytes.
  rw [← PduHeader.decode_take_eq_ok hle', htake, PduHeader.decode_take_eq_ok (hlen ▸ hle),
    hheader] at hheader'
  cases hheader'
  exact List.append_inj (hinput.symm.trans h) (hlen'.trans hlen.symm)

open RpcClient in
/-- What is delivered of an input that begins with PDUs is the first of
them. -/
theorem prefix_of_delivers (hp : ReadsNext input) {t t' : NcacnNpTransport P}
    {pdus delivered : List (List UInt8)} {tail : List UInt8}
    (hdecode : ∀ bytes ∈ pdus, ∃ packet, PduPacket.decode bytes = .ok packet)
    (h : input t.pipe = pdus.flatten ++ tail) (hd : Delivers t delivered t')
    (hle : delivered.length ≤ pdus.length) :
    ∃ rest, pdus = delivered ++ rest ∧ input t'.pipe = rest.flatten ++ tail := by
  induction hd generalizing pdus with
  | nil => exact ⟨pdus, rfl, h⟩
  | cons hr _ ih =>
    cases pdus with
    | nil => exact absurd hle (Nat.not_succ_le_zero _)
    | cons bytes pdus =>
      obtain ⟨⟨packet, hpacket⟩, hrest⟩ := List.forall_mem_cons.mp hdecode
      rw [List.flatten_cons, List.append_assoc] at h
      obtain ⟨rfl, hinput⟩ := recvPdu_eq_of_decode hp hpacket h hr
      obtain ⟨rest, rfl, hinput'⟩ := ih hrest hinput (Nat.le_of_succ_le_succ hle)
      exact ⟨rest, rfl, hinput'⟩

end Input

/-! ## Clients over a byte stream -/

section Duplex

variable {W : Type} [Writer W] {input : P → List UInt8} {output : P → W}

/-- The input of the pipe is the PDUs of the queue, and then `tail`. -/
structure Carries (input : P → List UInt8) (output : P → W) (tail : List UInt8)
    (t : NcacnNpTransport P) (m : MessageTransport W) : Prop where
  decode : ∀ bytes ∈ m.incoming, ∃ packet, PduPacket.decode bytes = .ok packet
  input_eq : input t.pipe = m.incoming.flatten ++ tail
  output_eq : output t.pipe = m.out

theorem output_of_recvPdu (hp : Duplex input output) {t t' : NcacnNpTransport P} {bytes : List UInt8}
    (h : RpcTransport.recvPdu t = (.ok bytes, t')) : output t'.pipe = output t.pipe := by
  have hread : ∀ {n : Nat} {t t' : NcacnNpTransport P} {bytes},
      (readExact n).exec t = (.ok bytes, t') → output t'.pipe = output t.pipe := fun {n t _ _} h => by
    obtain ⟨-, v, hread, -⟩ := length_of_readExact h
    have hout := hp.read_output t.pipe n
    rwa [hread] at hout
  obtain ⟨_, _, t₁, _, hheader, -, -, hrest, -⟩ := recvPdu_eq_ok.mp (rpcRecvPdu_eq_ok.mp h)
  rw [hread hrest, hread hheader]

theorem transportSim (hp : Duplex input output) (tail : List UInt8) :
    TransportSim (Carries input output tail) where
  sendPdu {t m} bytes h := by
    have hresult := hp.write_result t.pipe bytes
    have hout := hp.write_output t.pipe bytes
    rw [h.output_eq] at hresult hout
    exact ⟨hresult, h.decode, (hp.write_input t.pipe bytes).trans h.input_eq, hout⟩
  recvPdu {t m bytes m'} h hm := by
    obtain ⟨incoming, out⟩ := m
    cases incoming with
    | nil => cases hm
    | cons bytes incoming =>
      cases hm
      obtain ⟨⟨packet, hpacket⟩, hrest⟩ := List.forall_mem_cons.mp h.decode
      have hinput := h.input_eq
      rw [List.flatten_cons, List.append_assoc] at hinput
      obtain ⟨t', hr, hinput'⟩ := recvPdu_of_decode hp.toReadsAll hpacket hinput
      exact ⟨t', hr, hrest, hinput', (output_of_recvPdu hp hr).trans h.output_eq⟩

end Duplex

/-! ## Framing -/

open RpcClient in
/-- **Framing.** From a pipe that is read what `input` says:

* the PDUs the input begins with are delivered, in order, and the rest of the
  input is left, and where the pipe may fail nothing else is delivered;
* a bind, and any session, over the pipe does what it does over a transport
  that delivers these PDUs, as long as there are any;
* what is delivered from any input is the next bytes of it, as many as their
  header says, and the decoder of PDUs can only find fault with their
  authentication. -/
theorem framing [UuidCrate] {A W : Type} [RpcAuthProvider A] [Writer W] (input : P → List UInt8)
    (output : P → W) :
    (∀ (t : NcacnNpTransport P) (pdus : List (List UInt8)) (tail : List UInt8),
      (∀ bytes ∈ pdus, ∃ packet, PduPacket.decode bytes = .ok packet) →
      input t.pipe = pdus.flatten ++ tail →
      (ReadsAll input → ∃ t', Delivers t pdus t' ∧ input t'.pipe = tail) ∧
      (ReadsNext input → ∀ delivered t', Delivers t delivered t' → delivered.length = pdus.length →
        delivered = pdus ∧ input t'.pipe = tail) ∧
      (Duplex input output → ∀ (proposed : List PresentationContext) target (authProvider : Option A),
        ¬ Starved ((bindWithContextsInner proposed target).exec
          { transport := (⟨pdus, output t.pipe⟩ : MessageTransport W), authProvider,
            trace := [] }).2.trace →
        SameResult (ClientSim (Carries input output tail))
          ((bindWithContextsInner proposed target).exec
            { transport := t, authProvider, trace := [] }).1
          ((bindWithContextsInner proposed target).exec
            { transport := (⟨pdus, output t.pipe⟩ : MessageTransport W), authProvider,
              trace := [] }).1)) ∧
    (Duplex input output → ∀ (tail : List UInt8) (c : RpcClient (NcacnNpTransport P) A)
      (d d' : RpcClient (MessageTransport W) A) (calls : List (Call A)),
      ClientSim (Carries input output tail) c d → Session d calls d' → ¬ Starved d'.trace →
      ∃ c', ClientSim (Carries input output tail) c' d' ∧ ∀ calls' c'',
        calls'.map (fun call => (call.opnum, call.requestStub)) =
          calls.map (fun call => (call.opnum, call.requestStub)) →
        (Session c calls' c'' ↔ calls' = calls ∧ c'' = c')) ∧
    (ReadsNext input → ∀ (t t' : NcacnNpTransport P) (bytes : List UInt8),
      RpcTransport.recvPdu t = (.ok bytes, t') →
      input t.pipe = bytes ++ input t'.pipe ∧ 16 ≤ bytes.length ∧
      (∃ header, PduHeader.decode bytes = .ok header ∧ bytes.length = header.fragLength.toNat) ∧
      ErrorsIn (· ∈ PduPacket.authErrors) (PduPacket.decode bytes)) := by
  refine ⟨fun t pdus tail hdecode h => ⟨fun hp => ?_, fun hp delivered t' hd hlen => ?_,
    fun hp proposed target authProvider hlast => ?_⟩, fun hp tail c d d' calls hsim hsession hlast => ?_,
    fun hp t t' bytes hr => ?_⟩
  · exact delivers_of_decode hp hdecode h
  · obtain ⟨rest, rfl, hinput⟩ := prefix_of_delivers hp hdecode h hd (Nat.le_of_eq hlen)
    rw [List.length_append, left_eq_add, List.length_eq_zero_iff] at hlen
    subst hlen
    exact ⟨(List.append_nil _).symm, hinput⟩
  · exact ((transportSim hp tail).bind ⟨hdecode, h, rfl⟩ proposed target authProvider hlast).1
  · obtain ⟨c', hsession', hsim'⟩ := (transportSim hp tail).session hsim hsession hlast
    refine ⟨c', hsim', fun calls' c'' hargs => ⟨fun hrun => ?_, ?_⟩⟩
    · exact hrun.deterministic (fun call => (call.opnum, call.requestStub))
        (fun _ _ _ _ _ => CallStep.deterministic) hsession' hargs
    · rintro ⟨rfl, rfl⟩
      exact hsession'
  · obtain ⟨hinput, hle, header, hheader, hlen⟩ := recvPdu_sound hp hr
    exact ⟨hinput, hle, ⟨header, hheader, hlen⟩, PduPacket.errorsIn_decode hheader (hlen ▸ hle) hlen⟩

end NcacnNpTransport

/-! ## The pipe of the tests -/

section

open Standard RpcClient

theorem Standard.ChunkedPipe.flatten_of_fill {n : Nat} {reads reads' : List (List UInt8)}
    {bytes : { bytes : List UInt8 // bytes.length = n }}
    (h : ChunkedPipe.fill n reads = some (bytes, reads')) :
    reads.flatten = bytes.val ++ reads'.flatten := by
  induction reads generalizing n with
  | nil =>
    cases n with
    | zero =>
      cases h
      rfl
    | succ => cases h
  | cons chunk reads ih =>
    cases n with
    | zero =>
      cases h
      rfl
    | succ n =>
      rw [ChunkedPipe.fill] at h
      split at h
      · obtain ⟨⟨rest, _⟩, hfill, h⟩ := Option.map_eq_some_iff.mp h
        cases h
        rw [List.flatten_cons, ih hfill, List.append_assoc]
      · cases h
        rw [List.flatten_cons, List.flatten_cons, ← List.append_assoc, List.take_append_drop]

theorem Standard.ChunkedPipe.exists_fill {n : Nat} {reads : List (List UInt8)}
    (h : n ≤ reads.flatten.length) : ∃ r, ChunkedPipe.fill n reads = some r := by
  induction reads generalizing n with
  | nil =>
    obtain rfl := Nat.le_zero.mp h
    exact ⟨_, rfl⟩
  | cons chunk reads ih =>
    cases n with
    | zero => exact ⟨_, rfl⟩
    | succ n =>
      rw [List.flatten_cons, List.length_append] at h
      rw [ChunkedPipe.fill]
      split
      · obtain ⟨r, hr⟩ := ih (Nat.sub_le_iff_le_add'.mpr h)
        exact ⟨_, Option.map_eq_some_iff.mpr ⟨r, hr, rfl⟩⟩
      · exact ⟨_, rfl⟩

/-- A list keeps what is written. -/
instance : Writer (List (List UInt8)) where
  write writes bytes := (.ok (), writes ++ [bytes])

/-- The input of a `ChunkedPipe` is its chunks, one after the other. -/
theorem Standard.ChunkedPipe.duplex : Duplex (fun p : ChunkedPipe => p.reads.flatten) (·.writes) where
  next {p n bytes p'} h := by
    rcases hfill : ChunkedPipe.fill n p.reads with _ | ⟨bs, reads⟩
    · simp only [NamedPipe.readExact, hfill] at h
      cases h
    · simp only [NamedPipe.readExact, hfill] at h
      cases h
      exact flatten_of_fill hfill
  available {p n} h := by
    obtain ⟨r, hr⟩ := exists_fill h
    simp only [NamedPipe.readExact, hr]
    exact ⟨_, _, rfl⟩
  read_output p n := by
    rcases hfill : ChunkedPipe.fill n p.reads with _ | r
    · simp only [NamedPipe.readExact, hfill]
    · simp only [NamedPipe.readExact, hfill]
  write_result _ _ := rfl
  write_output _ _ := rfl
  write_input _ _ := rfl

/-- The PDUs of a server that accepts a bind and answers a call. -/
def dialogue : List (List UInt8) :=
  [pdu .bindAck 1 (acceptanceBody 4280 4280 .ndr32), pdu .response 2 (responseBody [7])]

/-- A pipe with the dialogue and two bytes more, in chunks of 19 bytes. -/
def dialoguePipe : NcacnNpTransport ChunkedPipe :=
  ⟨⟨Chunk.chunks 19 (dialogue.flatten ++ [5, 0]), []⟩⟩

theorem not_starved {A : Type} {trace : List (Event A)}
    (h : trace.all (fun | .recvPdu (.error _) => false | _ => true) = true) : ¬ Starved trace := by
  rintro ⟨e, he⟩
  exact Bool.false_ne_true (List.all_eq_true.mp h _ he)

/-- The client of the dialogue, as messages. -/
def dialogueClient : RpcClient (MessageTransport (List (List UInt8))) FixedProvider :=
  (bindWithContexts ⟨dialogue, []⟩ [ndr32Context]).1.toOption.getD (newBound ⟨[], []⟩ 0)

/-- The dialogue over the pipe: its PDUs are delivered, and the bind and the
call succeed. -/
theorem NcacnNpTransport.framing_dialogue :
    (∃ t, Delivers dialoguePipe dialogue t ∧ t.pipe.reads.flatten = [5, 0]) ∧
    ∃ (c c' : RpcClient (NcacnNpTransport ChunkedPipe) FixedProvider) (call : Call FixedProvider),
      (bindWithContexts dialoguePipe [ndr32Context]).1 = .ok c ∧ Session c [call] c' ∧
      call.result = .ok [7] ∧ c'.transport.pipe.reads.flatten = [5, 0] := by
  have hdecode : ∀ bytes ∈ dialogue, ∃ packet, PduPacket.decode bytes = .ok packet :=
    List.forall_mem_cons.mpr ⟨⟨packet .bindAck 1 (acceptanceBody 4280 4280 .ndr32), by decide +kernel⟩,
      List.forall_mem_singleton.mpr ⟨packet .response 2 (responseBody [7]), by decide +kernel⟩⟩
  have hinput : dialoguePipe.pipe.reads.flatten = dialogue.flatten ++ [5, 0] := by decide +kernel
  obtain ⟨hframes, hsessions, -⟩ := NcacnNpTransport.framing (A := FixedProvider)
    (fun p : ChunkedPipe => p.reads.flatten) (·.writes)
  obtain ⟨hdelivers, -, hbinds⟩ := hframes dialoguePipe dialogue [5, 0] hdecode hinput
  refine ⟨hdelivers ChunkedPipe.duplex.toReadsAll, ?_⟩
  have hbind := hbinds ChunkedPipe.duplex [ndr32Context] "" none (not_starved (by decide +kernel))
  obtain ⟨events, hstep⟩ := CallStep.of_exec (c := dialogueClient) 2 0 [] (r := .ok [7])
    (Prod.ext (by decide +kernel) rfl) (by decide)
  have hsame : SameResult (ClientSim (Carries (fun p : ChunkedPipe => p.reads.flatten) (·.writes)
      [5, 0])) (bindWithContexts dialoguePipe [ndr32Context]).1 (.ok dialogueClient) := hbind
  rcases hc : (bindWithContexts (A := FixedProvider) dialoguePipe [ndr32Context]).1 with e | c
  · rw [hc] at hsame
    cases hsame
  · rw [hc] at hsame
    cases hsame with
    | ok hsim =>
      obtain ⟨c', hsim', hrun⟩ := hsessions ChunkedPipe.duplex [5, 0] _ _ _ [_] hsim
        (.cons hstep (.nil _)) (not_starved (by decide +kernel))
      exact ⟨c, c', _, rfl, (hrun _ _ rfl).mpr ⟨rfl, rfl⟩, rfl, hsim'.toWorld.transport.input_eq⟩

end

end Rpce
