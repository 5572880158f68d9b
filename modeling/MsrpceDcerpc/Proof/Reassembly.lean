import Mathlib.Data.List.Forall2
import MsrpceDcerpc.Proof.Calls
import MsrpceDcerpc.Proof.Fragmentation

/-!
# The fragments of a response

The receive loop decides fragment by fragment; `unfinished_iff` and
`response_iff_inFragments` say which PDUs it goes through, without the loop:
the `ResponsePrefix` and the `ResponseInFragments` of the wire. With what ends
the loop this is `response_reassembly`: the responses and the faults of a
sequence of deliveries.

A first fragment in the middle goes unnoticed: `oneFirst_iff_not_glued` says
which calls return the stub of one response.
-/

namespace Rpce

open Rust Endian Segment Eff

/-! ## Errors that are no fault -/

section Errors

variable {status : UInt32}

/-- The errors of the decoders: what the server reports is none of them. -/
theorem PduType.tryFrom_ne_fault (value : UInt8) :
    ErrorsIn (· ≠ .fault status) (tryFrom value) := by
  unfold tryFrom
  split <;> first | exact .ok _ | exact .err nofun

theorem ResponsePdu.decode_ne_fault (bytes : List UInt8) :
    ErrorsIn (· ≠ .fault status) (decode bytes) := by
  refine .bind (.failIf fun _ => nofun) fun _ _ => .bind (.readU32 _ _ _) fun _ _ => ?_
  refine .bind (.readU16 _ _ _) fun _ _ => .bind (.index _ _) fun _ _ => ?_
  exact .bind (.slice _ _ _) fun _ _ => .ok _

theorem FaultPdu.decode_ne_fault (bytes : List UInt8) :
    ErrorsIn (· ≠ .fault status) (decode bytes) := by
  refine .bind (.failIf fun _ => nofun) fun _ _ => .bind (.readU32 _ _ _) fun _ _ => ?_
  refine .bind (.readU16 _ _ _) fun _ _ => .bind (.index _ _) fun _ _ => ?_
  refine .bind (.readU32 _ _ _) fun _ _ => .bind (.slice _ _ _) fun _ _ => .ok _

variable [DataRepresentation]

theorem PduHeader.decode_ne_fault (bytes : List UInt8) :
    ErrorsIn (· ≠ .fault status) (decode bytes) := by
  refine .bind (.failIf fun _ => nofun) fun _ _ => .bind (.index _ _) fun _ _ => ?_
  refine .bind (.index _ _) fun _ _ => .bind (.index _ _) fun _ _ => .bind (.index _ _) fun _ _ => ?_
  refine .bind (.mapErr fun _ => nofun) fun _ _ => .bind (.index _ _) fun _ _ => ?_
  refine .bind (.index _ _) fun _ _ => .bind (.index _ _) fun _ _ => ?_
  refine .bind (PduType.tryFrom_ne_fault _) fun _ _ => .bind (.index _ _) fun _ _ => ?_
  refine .bind (.readU16 _ _ _) fun _ _ => .bind (.readU16 _ _ _) fun _ _ => ?_
  exact .bind (.readU32 _ _ _) fun _ _ => .bind (.failIf fun _ => nofun) fun _ _ => .ok _

theorem PduPacket.decode_ne_fault (bytes : List UInt8) :
    ErrorsIn (· ≠ .fault status) (decode bytes) := by
  refine .bind (PduHeader.decode_ne_fault _) fun header _ => .bind (.failIf fun _ => nofun) fun _ _ => ?_
  refine .bind (.failIf fun _ => nofun) fun _ _ => .bind (.subUsize _ _) fun _ _ => ?_
  refine .bind (.failIf fun _ => nofun) fun _ _ => .bind ?_ fun _ _ => ?_
  · refine (errorsIn_decodeTrailer _ _ _).imp fun e he => ?_
    rintro rfl
    simp [authErrors] at he
  · refine .bind (.slice _ _ _) fun _ _ => .bind (.subUsize _ _) fun _ _ => ?_
    exact .bind (.slice _ _ _) fun _ _ => .ok _

end Errors

/-! ## Bodies -/

/-- Every body of at least 8 bytes is a response, with the stub after them. -/
theorem ResponsePdu.exists_decode_iff {bytes stub : List UInt8} :
    (∃ response, decode bytes = .ok response ∧ stub = response.stubData) ↔
      8 ≤ bytes.length ∧ stub = bytes.drop 8 := by
  constructor
  · rintro ⟨response, h, rfl⟩
    obtain ⟨reserved, h⟩ := decode_eq_ok.mp h
    obtain ⟨hl, -, -, -, -, hstub⟩ := eq_wire_iff.mp h
    exact ⟨hl, hstub.symm⟩
  · rintro ⟨hl, rfl⟩
    obtain ⟨allocHint, h0⟩ := exists_at_word (W := UInt32) .little (show 0 + 4 ≤ bytes.length by omega)
    obtain ⟨ctxId, h4⟩ := exists_at_word (W := UInt16) .little (show 4 + 2 ≤ bytes.length by omega)
    obtain ⟨cancelCount, h6⟩ := exists_at_singleton (show 6 < bytes.length by omega)
    obtain ⟨reserved, h7⟩ := exists_at_singleton (show 7 < bytes.length by omega)
    exact ⟨⟨allocHint, ctxId, cancelCount, bytes.drop 8⟩,
      decode_eq_ok.mpr ⟨reserved, eq_wire_iff.mpr ⟨hl, h0, h4, h6, h7, rfl⟩⟩, rfl⟩

/-- Every body of at least 12 bytes is a fault, with its status at offset 8. -/
theorem FaultPdu.exists_decode_iff {bytes : List UInt8} {status : UInt32} :
    (∃ fault, decode bytes = .ok fault ∧ fault.status = status) ↔
      12 ≤ bytes.length ∧ At bytes 8 (u32Bytes .little status) := by
  constructor
  · rintro ⟨fault, h, rfl⟩
    obtain ⟨reserved, h⟩ := decode_eq_ok.mp h
    obtain ⟨hl, -, -, -, -, hstatus, -⟩ := eq_wire_iff.mp h
    exact ⟨hl, hstatus⟩
  · rintro ⟨hl, hstatus⟩
    obtain ⟨allocHint, h0⟩ := exists_at_word (W := UInt32) .little (show 0 + 4 ≤ bytes.length by omega)
    obtain ⟨ctxId, h4⟩ := exists_at_word (W := UInt16) .little (show 4 + 2 ≤ bytes.length by omega)
    obtain ⟨cancelCount, h6⟩ := exists_at_singleton (show 6 < bytes.length by omega)
    obtain ⟨reserved, h7⟩ := exists_at_singleton (show 7 < bytes.length by omega)
    exact ⟨⟨allocHint, ctxId, cancelCount, status, bytes.drop 12⟩,
      decode_eq_ok.mpr ⟨reserved, eq_wire_iff.mpr ⟨hl, h0, h4, h6, h7, hstatus, rfl⟩⟩, rfl⟩


namespace RpcClient

variable {T A : Type}

/-! ## The PDUs of a response -/

section Grammar

variable [DataRepresentation] [RpcAuthProvider A] {authProvider : Option A} {callId : UInt32}

/-- The loop takes a PDU for a fragment if that is how it is read. -/
theorem responseFragment_eq_ok_iff (hlevel : LevelSupported authProvider) {sawFirst last : Bool}
    {bytes stub : List UInt8} :
    responseFragment authProvider callId sawFirst bytes = .ok (last, stub) ↔
      ∃ p, IsFragment callId bytes p ∧
        (sawFirst = true ∨ p.header.pfcFlags &&& PFC_FIRST_FRAG ≠ 0) ∧
        (last = true ↔ p.header.pfcFlags &&& PFC_LAST_FRAG ≠ 0) ∧ stub = p.body.drop 8 := by
  rw [responseFragment_eq_ok]
  constructor
  · rintro ⟨-, p, response, hdecode, hid, htype, hfirst, hresponse, rfl, hstub⟩
    obtain ⟨hbody, rfl⟩ := ResponsePdu.exists_decode_iff.mp ⟨response, hresponse, hstub⟩
    rw [Bool.or_eq_true, bne_iff_ne] at hfirst
    exact ⟨p, ⟨hdecode, htype, hid, hbody⟩, hfirst, bne_iff_ne, rfl⟩
  · rintro ⟨p, ⟨hdecode, htype, hid, hbody⟩, hfirst, hlast, rfl⟩
    obtain ⟨response, hresponse, hstub⟩ := ResponsePdu.exists_decode_iff.mpr ⟨hbody, rfl⟩
    rw [← bne_iff_ne, ← Bool.or_eq_true] at hfirst
    rw [← bne_iff_ne, Bool.coe_iff_coe] at hlast
    exact ⟨hlevel, p, response, hdecode, hid, htype, hfirst, hresponse, hlast, hstub⟩

theorem unfinished_iff (hlevel : LevelSupported authProvider) {sawFirst sawFirst' : Bool}
    {pdus : List (List UInt8)} {stub : List UInt8} :
    Unfinished authProvider callId sawFirst pdus stub sawFirst' ↔
      ∃ packets, List.Forall₂ (IsFragment callId) pdus packets ∧
        (sawFirst = true ∨ ∀ p ∈ packets.head?, p.header.pfcFlags &&& PFC_FIRST_FRAG ≠ 0) ∧
        (∀ p ∈ packets, p.header.pfcFlags &&& PFC_LAST_FRAG = 0) ∧
        stub = packets.flatMap (fun p => p.body.drop 8) ∧
        (sawFirst' = true ↔ sawFirst = true ∨ packets ≠ []) := by
  constructor
  · intro h
    induction h with
    | nil s =>
      refine ⟨[], .nil, .inr fun _ h => absurd h (by simp), fun _ h => absurd h List.not_mem_nil, rfl, ?_⟩
      simp only [ne_eq, not_true_eq_false, or_false]
    | more hpart _ ih =>
      obtain ⟨packets, hfragments, -, hlast, rfl, hsaw⟩ := ih
      obtain ⟨p, hp, hfirst, hlast', rfl⟩ := (responseFragment_eq_ok_iff hlevel).mp hpart
      rw [Bool.false_eq_true, false_iff, not_not] at hlast'
      refine ⟨p :: packets, .cons hp hfragments, ?_, List.forall_mem_cons.mpr ⟨hlast', hlast⟩, rfl, ?_⟩
      · exact hfirst.imp_right fun h q hq => Option.some.inj hq ▸ h
      · exact iff_of_true (hsaw.mpr (.inl rfl)) (.inr (List.cons_ne_nil _ _))
  · rintro ⟨packets, hfragments, hfirst, hlast, rfl, hsaw⟩
    induction hfragments generalizing sawFirst with
    | nil =>
      simp only [ne_eq, not_true_eq_false, or_false, Bool.coe_iff_coe] at hsaw
      subst hsaw
      exact .nil _
    | @cons bytes p pdus packets hp _ ih =>
      obtain ⟨hlast', hlast⟩ := List.forall_mem_cons.mp hlast
      refine .more ((responseFragment_eq_ok_iff hlevel).mpr ⟨p, hp, ?_, ?_, rfl⟩) (ih (.inl rfl) hlast ?_)
      · exact hfirst.imp_right fun h => h p rfl
      · rw [Bool.false_eq_true, false_iff, not_not]
        exact hlast'
      · exact iff_of_true (hsaw.mpr (.inr (List.cons_ne_nil _ _))) (.inl rfl)

/-- The PDUs for which the loop returns a stub are those of a response. -/
theorem response_iff_inFragments (hlevel : LevelSupported authProvider) {pdus : List (List UInt8)}
    {stub : List UInt8} :
    Response authProvider callId false pdus stub ↔
      ∃ packets, ResponseInFragments callId pdus packets stub := by
  rw [response_iff]
  constructor
  · rintro ⟨init, bytes, rest, sawFirst', last, rfl, rfl, hinit, hlast⟩
    obtain ⟨packets, hfragments, hfirst, hnone, rfl, hsaw⟩ := (unfinished_iff hlevel).mp hinit
    obtain ⟨p, hp, hfirst', hflag, rfl⟩ := (responseFragment_eq_ok_iff hlevel).mp hlast
    refine ⟨packets ++ [p], ⟨?_, ?_⟩, ⟨p, ?_, hflag.mp rfl⟩, ?_, ?_⟩
    · exact List.rel_append hfragments (.cons hp .nil)
    · cases packets with
      | nil =>
        rw [hsaw] at hfirst'
        intro q hq
        obtain rfl : p = q := Option.some.inj hq
        simpa using hfirst'
      | cons q packets => exact hfirst.resolve_left Bool.false_ne_true
    · rw [List.getLast?_concat]
      rfl
    · rw [List.dropLast_concat]
      exact hnone
    · rw [List.flatMap_append, List.flatMap_singleton]
  · rintro ⟨packets, hpre, ⟨p, hp, hlast⟩, hnone, rfl⟩
    obtain ⟨hfragments, hfirst⟩ := hpre
    obtain ⟨front, rfl⟩ := List.getLast?_eq_some_iff.mp hp
    rw [List.dropLast_concat] at hnone
    have hfront := List.forall₂_take_append _ _ _ hfragments
    obtain ⟨bytes, rest, hbytes, hnil, hdrop⟩ :=
      List.forall₂_cons_right_iff.mp (List.forall₂_drop_append _ _ _ hfragments)
    obtain rfl := List.forall₂_nil_right_iff.mp hnil
    refine ⟨pdus.take front.length, bytes, _, true && !front.isEmpty, p.body.drop 8, ?_, ?_,
      (unfinished_iff hlevel).mpr ⟨front, hfront, ?_, hnone, rfl, ?_⟩,
      (responseFragment_eq_ok_iff hlevel).mpr ⟨p, hbytes, ?_, ?_, rfl⟩⟩
    · rw [← hdrop, List.take_append_drop]
    · rw [List.flatMap_append, List.flatMap_singleton]
    · cases front with
      | nil => exact .inr fun _ h => absurd h (by simp)
      | cons q front => exact .inr hfirst
    · simp
    · cases front with
      | nil => exact .inr (hfirst p rfl)
      | cons q front => exact .inl rfl
    · exact iff_of_true rfl hlast

/-- The loop takes a PDU for a fault if that is how it is read. -/
theorem responseFragment_eq_fault_iff (hlevel : LevelSupported authProvider) {sawFirst : Bool}
    {bytes : List UInt8} {status : UInt32} :
    responseFragment authProvider callId sawFirst bytes = .error (.err (.fault status)) ↔
      ∃ p, IsFault callId status bytes p := by
  constructor
  · intro h
    unfold responseFragment at h
    cases hdecode : PduPacket.decode bytes with
    | error stop =>
      rw [hdecode] at h
      cases h
      have hne : ErrorsIn (· ≠ .fault status) (PduPacket.decode bytes) :=
        PduPacket.decode_ne_fault bytes
      exact absurd rfl (hne _ hdecode)
    | ok p =>
      rw [hdecode, bind_ok, checkAuthLevel_eq_ok (u := ()).mpr hlevel, bind_ok] at h
      by_cases hid : p.header.callId = callId
      · rw [failIf_of_not _ (Classical.not_not.mpr hid), bind_ok] at h
        split at h
        · -- a response is refused for other reasons
          rename_i htype
          refine absurd rfl (ErrorsIn.bind (P := (· ≠ .fault status)) (.failIf ?_) (fun _ _ => ?_) _ h)
          · exact fun _ => nofun
          · exact .bind (ResponsePdu.decode_ne_fault p.body) fun _ _ => .ok _
        · rename_i htype
          cases hfault : FaultPdu.decode p.body with
          | error stop =>
            rw [hfault] at h
            cases h
            have hne : ErrorsIn (· ≠ .fault status) (FaultPdu.decode p.body) :=
              FaultPdu.decode_ne_fault p.body
            exact absurd rfl (hne _ hfault)
          | ok fault =>
            rw [hfault] at h
            cases h
            obtain ⟨hbody, hstatus⟩ := FaultPdu.exists_decode_iff.mp ⟨fault, hfault, rfl⟩
            exact ⟨p, hdecode, htype, hid, hbody, hstatus⟩
        · cases h
      · rw [failIf_of _ hid] at h
        cases h
  · rintro ⟨p, hdecode, htype, hid, hbody, hstatus⟩
    obtain ⟨fault, hfault, rfl⟩ := FaultPdu.exists_decode_iff.mpr ⟨hbody, hstatus⟩
    exact responseFragment_fault hlevel hdecode hid htype hfault

end Grammar

/-! ## The loop -/

section Loop

variable [DataRepresentation] [RpcTransport T] [RpcAuthProvider A] {c c' : RpcClient T A}
  {callId : UInt32}

/-- The loop returns a stub exactly for the PDUs of a response. -/
theorem recvResponseFragments_ok_iff (hlevel : LevelSupported c.authProvider) {fuel : Nat}
    {stub : List UInt8} :
    (recvResponseFragments fuel callId).exec c = (.ok stub, c') ↔
      ∃ pdus packets t, pdus.length ≤ fuel ∧ ResponseInFragments callId pdus packets stub ∧
        Delivers c.transport pdus t ∧ c' = c.afterReceive pdus t := by
  constructor
  · intro h
    obtain ⟨pdus, t, rest, hlen, hd, rfl, rfl, hresponse⟩ := recvLoop_ok h
    obtain ⟨packets, hpackets⟩ := (response_iff_inFragments hlevel).mp hresponse
    exact ⟨pdus, packets, t, hlen, hpackets, hd, rfl⟩
  · rintro ⟨pdus, packets, t, hlen, hpackets, hd, rfl⟩
    exact recvLoop_delivered [] rfl ((response_iff_inFragments hlevel).mpr ⟨packets, hpackets⟩) hd hlen

/-- The loop reports a fault after fragments that are not the last. -/
theorem recvResponseFragments_fault (hlevel : LevelSupported c.authProvider) {fuel : Nat}
    {pdus : List (List UInt8)} {packets : List PduPacket} {bytes : List UInt8} {p : PduPacket}
    {status : UInt32} {t t' : T} (hpre : ResponsePrefix callId pdus packets)
    (hnone : ∀ p ∈ packets, p.header.pfcFlags &&& PFC_LAST_FRAG = 0)
    (hfault : IsFault callId status bytes p) (hd : Delivers c.transport pdus t)
    (hr : RpcTransport.recvPdu t = (.ok bytes, t')) (hfuel : pdus.length < fuel) :
    (recvResponseFragments fuel callId).exec c =
      (.error (.err (.fault status)), c.afterReceive (pdus ++ [bytes]) t') := by
  obtain ⟨hfragments, hfirst⟩ := hpre
  have hpdus : Unfinished c.authProvider callId false pdus _ !packets.isEmpty :=
    (unfinished_iff hlevel).mpr ⟨packets, hfragments, .inr hfirst, hnone, rfl, by simp⟩
  have hround : LastRound callId ([] ++ packets.flatMap fun p => p.body.drop 8) (!packets.isEmpty)
      (c.afterReceive pdus t) (.error (.err (.fault status))) _ :=
    .refused hr ((responseFragment_eq_fault_iff hlevel).mpr ⟨p, hfault⟩)
  obtain ⟨n, rfl⟩ : ∃ n, fuel = n + 1 + pdus.length := ⟨fuel - 1 - pdus.length, by omega⟩
  rw [recvResponseFragments, recvLoop_unfinished hpdus hd, hround.exec, afterRecv_afterReceive]

/-- **Reassembly.** On a transport that gives the deliveries `ds` and then an
error, the loop returns. It returns a stub exactly if `ds` begins with the PDUs
of a response with that stub, and has received these and no more; it reports a
fault exactly if `ds` begins with fragments that are not the last and the PDU
of that fault. -/
theorem response_reassembly {ds : List (Except String (List UInt8))} {fuel : Nat}
    (hlevel : LevelSupported c.authProvider) (hplays : Plays c.transport ds)
    (hfuel : ds.length < fuel) :
    Returns ((recvResponseFragments fuel callId).exec c).1 ∧
    (∀ stub c', (recvResponseFragments fuel callId).exec c = (.ok stub, c') ↔
      ∃ pdus packets t, pdus.map .ok <+: ds ∧ ResponseInFragments callId pdus packets stub ∧
        Delivers c.transport pdus t ∧ c' = c.afterReceive pdus t) ∧
    (∀ status, ((recvResponseFragments fuel callId).exec c).1 = .error (.err (.fault status)) ↔
      ∃ pdus packets bytes p, (pdus ++ [bytes]).map .ok <+: ds ∧
        ResponsePrefix callId pdus packets ∧
        (∀ p ∈ packets, p.header.pfcFlags &&& PFC_LAST_FRAG = 0) ∧ IsFault callId status bytes p) := by
  have hlen : ∀ {pdus : List (List UInt8)}, pdus.map .ok <+: ds → pdus.length < fuel := fun h => by
    have hle := h.length_le
    rw [List.length_map] at hle
    omega
  rcases hexec : (recvResponseFragments fuel callId).exec c with ⟨r, c₁⟩
  obtain ⟨frames, stub, sawFirst, t, hframes, hd, hend⟩ := recvLoop_ends hexec
  obtain ⟨-, hlast⟩ := hend.resolve_left fun h => (hlen (hplays.map_prefix hd)).ne h.2.1
  refine ⟨?_, fun stub c' => ?_, fun status => ?_⟩
  · obtain ⟨-, -, hreturns, -⟩ := hlast.exists_event
    exact hreturns
  · rw [← hexec, recvResponseFragments_ok_iff hlevel]
    constructor
    · rintro ⟨pdus, packets, t, -, hpackets, hd, hc'⟩
      exact ⟨pdus, packets, t, hplays.map_prefix hd, hpackets, hd, hc'⟩
    · rintro ⟨pdus, packets, t, hpre, hpackets, hd, hc'⟩
      exact ⟨pdus, packets, t, (hlen hpre).le, hpackets, hd, hc'⟩
  · constructor
    · rintro rfl
      cases hlast with
      | transport hr =>
        obtain ⟨message, he⟩ := hplays.transport_error hd hr
        cases he
      | @refused bytes _ t' hr hpart =>
        obtain ⟨packets, hfragments, hfirst, hnone, -, -⟩ := (unfinished_iff hlevel).mp hframes
        obtain ⟨p, hp⟩ := (responseFragment_eq_fault_iff hlevel).mp hpart
        exact ⟨frames, packets, bytes, p, hplays.map_prefix (hd.append (.cons hr (.nil t'))),
          ⟨hfragments, hfirst.resolve_left Bool.false_ne_true⟩, hnone, hp⟩
    · rintro ⟨pdus, packets, bytes, p, hpre, hpackets, hnone, hp⟩
      obtain ⟨t', hd'⟩ := hplays.delivers hpre
      obtain ⟨t₁, hd₁, hd₂⟩ := hd'.of_append
      have hlt : pdus.length < fuel := by
        have hlt := hlen hpre
        rw [List.length_append, List.length_singleton] at hlt
        omega
      cases hd₂ with
      | cons hr _ =>
        have hfault := recvResponseFragments_fault hlevel hpackets hnone hp hd₁ hr hlt
        exact congrArg Prod.fst (hexec.symm.trans hfault)

end Loop

end RpcClient

section

open Standard

/-- A client whose transport delivers a response in two fragments, of which the
first has the flags `PFC_FIRST_FRAG` and the second those of `second`. -/
def halves (second : UInt8) : RpcClient MemoryTransport FixedProvider :=
  newBound ⟨[PduPacket.frame .response 1 PFC_FIRST_FRAG (responseBody [7]),
    PduPacket.frame .response 1 second (responseBody [8])], []⟩ 0

theorem plays_memoryTransport (pdus sent : List (List UInt8)) :
    Plays (⟨pdus, sent⟩ : MemoryTransport) (pdus.map .ok) := by
  induction pdus with
  | nil => exact .nil rfl
  | cons _ _ ih => exact .ok rfl ih

/-- The stub of a response in two fragments. -/
theorem RpcClient.response_reassembly_halves : ∃ pdus packets t,
    ResponseInFragments 1 pdus packets [7, 8] ∧
    (recvResponseFragments 3 1).exec (halves PFC_LAST_FRAG) =
      (.ok [7, 8], (halves PFC_LAST_FRAG).afterReceive pdus t) := by
  have hlevel : LevelSupported (halves PFC_LAST_FRAG).authProvider := fun a ha => (by cases ha)
  have hok : ∀ stub c', (recvResponseFragments 3 1).exec (halves PFC_LAST_FRAG) = (.ok stub, c') ↔ _ :=
    (response_reassembly hlevel (plays_memoryTransport _ _) (by decide)).2.1
  obtain ⟨pdus, packets, t, -, hpackets, -, hc'⟩ := (hok [7, 8] _).mp rfl
  exact ⟨pdus, packets, t, hpackets, hc' ▸ rfl⟩

end

/-! ## Two responses in one -/

namespace RpcClient

variable {T A : Type}

/-- What a call did that sent `frames` and was delivered `pdus`. -/
def callEvents (c : RpcClient T A) (opnum : UInt16) (requestStub : List UInt8)
    (frames pdus : List (List UInt8)) : List (Event A) :=
  .callRaw opnum requestStub :: frames.map (.sendPdu · c.authProvider (.ok ())) ++ receiveEvents pdus

theorem received_callEvents (c : RpcClient T A) (opnum : UInt16) (requestStub : List UInt8)
    (frames pdus : List (List UInt8)) : received (callEvents c opnum requestStub frames pdus) = pdus := by
  rw [callEvents, received_append, received_receiveEvents, received_eq_nil, List.nil_append]
  exact List.forall_mem_cons.mpr ⟨rfl, List.forall_mem_map.mpr fun _ _ => rfl⟩

theorem trace_started (c : RpcClient T A) (opnum : UInt16) (requestStub : List UInt8)
    (frames pdus : List (List UInt8)) (t t' : T) :
    (((started c opnum requestStub).afterSend frames t).afterReceive pdus t').trace =
      c.trace ++ callEvents c opnum requestStub frames pdus := by
  simp only [started, afterSend, afterReceive, callEvents, receiveEvents, List.append_assoc,
    List.cons_append, List.nil_append]

variable [DataRepresentation]

/-- `pdus` are response PDUs, of which the first, and no other, is flagged as
a first fragment. -/
def OneFirst (pdus : List (List UInt8)) : Prop :=
  ∃ packets, List.Forall₂ (fun bytes p => PduPacket.decode bytes = .ok p ∧
      p.header.ptype = .response) pdus packets ∧ packets ≠ [] ∧
    ∀ i p, packets[i]? = some p → (p.header.pfcFlags &&& PFC_FIRST_FRAG ≠ 0 ↔ i = 0)

variable [UuidCrate] [RpcTransport T] [RpcAuthProvider A] {c : RpcClient T A} {opnum : UInt16}
  {requestStub : List UInt8}

/-- What a call that returns a stub was delivered. -/
theorem callRaw_ok_iff {fuel : Nat} {stub : List UInt8} {c' : RpcClient T A} :
    (callRaw fuel opnum requestStub).exec c = (.ok stub, c') ↔
      CanSend c ∧ ∃ t pdus packets t', pdus.length ≤ fuel ∧
        AcceptsAll c.transport
          (requestFrames c.callId c.contextId opnum requestStub c.maxXmitFrag) t ∧
        ResponseInFragments c.callId pdus packets stub ∧ Delivers t pdus t' ∧
        c' = ((started c opnum requestStub).afterSend
          (requestFrames c.callId c.contextId opnum requestStub c.maxXmitFrag) t).afterReceive pdus t' := by
  by_cases hc : CanSend c
  · have hlevel : ∀ pdus t, LevelSupported ((started c opnum requestStub).afterSend pdus t).authProvider :=
      fun _ _ => hc.2
    rw [callRaw_exec_of_canSend _ _ _ hc, and_iff_right hc]
    constructor
    · intro h
      obtain ⟨_, c₁, hsend, hrecv⟩ := exec_bind_eq_ok h
      rcases acceptsAll_or (started c opnum requestStub).transport
        (requestFrames c.callId c.contextId opnum requestStub c.maxXmitFrag) with
        ⟨t, hall⟩ | ⟨k, pdu, t₁, e, t₂, hget, hall, hs⟩
      · obtain rfl := congrArg Prod.snd ((sendFrames_accepted hall).symm.trans hsend)
        obtain ⟨pdus, packets, t', hlen, hpackets, hd, hc'⟩ :=
          (recvResponseFragments_ok_iff (hlevel _ t)).mp hrecv
        exact ⟨t, pdus, packets, t', hlen, hall, hpackets, hd, hc'⟩
      · cases (sendFrames_refused hget hall hs).symm.trans hsend
    · rintro ⟨t, pdus, packets, t', hlen, hall, hpackets, hd, hc'⟩
      have hall' : AcceptsAll (started c opnum requestStub).transport _ t := hall
      rw [exec_bind_of_ok (sendFrames_accepted hall')]
      exact (recvResponseFragments_ok_iff (hlevel _ t)).mpr ⟨pdus, packets, t', hlen, hpackets, hd, hc'⟩
  · obtain ⟨e, he⟩ := callRaw_exec_of_not_canSend fuel opnum requestStub hc
    rw [he]
    exact iff_of_false (fun h => by cases h) fun h => hc h.1

/-- The transport takes the request and then delivers a response in which a
fragment after the first is flagged as a first one. -/
def Glued (c : RpcClient T A) (opnum : UInt16) (requestStub : List UInt8) : Prop :=
  CanSend c ∧ ∃ t pdus packets stub t',
    AcceptsAll c.transport (requestFrames c.callId c.contextId opnum requestStub c.maxXmitFrag) t ∧
    Delivers t pdus t' ∧ ResponseInFragments c.callId pdus packets stub ∧
    ∃ i p, packets[i]? = some p ∧ 0 < i ∧ p.header.pfcFlags &&& PFC_FIRST_FRAG ≠ 0

/-- A stub is that of one response, except where the transport delivers a
second beginning before the end of the first. -/
theorem oneFirst_iff_not_glued (c : RpcClient T A) (opnum : UInt16) (requestStub : List UInt8) :
    (∀ fuel stub c' events, (callRaw fuel opnum requestStub).exec c = (.ok stub, c') →
      c'.trace = c.trace ++ events → OneFirst (received events)) ↔ ¬ Glued c opnum requestStub := by
  constructor
  · rintro h ⟨hc, t, pdus, packets, stub, t', hall, hd, hpackets, i, p, hp, hi, hfirst⟩
    have hok := callRaw_ok_iff.mpr ⟨hc, t, pdus, packets, t', le_rfl, hall, hpackets, hd, rfl⟩
    obtain ⟨packets', hpackets', -, hone⟩ := h _ _ _ _ hok (trace_started ..)
    rw [received_callEvents] at hpackets'
    have hdecode := hpackets.fragments.imp fun _ _ hf => hf.decode
    have hdecode' := hpackets'.imp fun _ _ hf => hf.1
    obtain rfl : packets = packets' := List.right_unique_forall₂'
      (fun _ _ _ hp hp' => Except.ok.inj (hp.symm.trans hp')) hdecode hdecode'
    exact hi.ne' ((hone i p hp).mp hfirst)
  · intro hglued fuel stub c' events hok htrace
    obtain ⟨hc, t, pdus, packets, t', -, hall, hpackets, hd, rfl⟩ := callRaw_ok_iff.mp hok
    rw [trace_started] at htrace
    rw [← List.append_cancel_left htrace, received_callEvents]
    refine ⟨packets, hpackets.fragments.imp fun _ _ hf => ⟨hf.decode, hf.ptype⟩, ?_, fun i p hp => ?_⟩
    · rintro rfl
      obtain ⟨p, hp, -⟩ := hpackets.last
      cases hp
    · constructor
      · intro hfirst
        by_contra hi
        exact hglued ⟨hc, t, pdus, packets, stub, t', hall, hd, hpackets, i, p, hp,
          Nat.pos_of_ne_zero hi, hfirst⟩
      · rintro rfl
        exact hpackets.first p (List.head?_eq_getElem? ▸ hp)

end RpcClient

section

open Standard RpcClient

/-- Two first fragments, of which only the second is a last one: the call
returns the stubs of both as one. -/
theorem RpcClient.not_oneFirst_halves :
    ∃ c' events, (callRaw 2 0 []).exec (halves (PFC_FIRST_FRAG ||| PFC_LAST_FRAG)) = (.ok [7, 8], c') ∧
      c'.trace = (halves (PFC_FIRST_FRAG ||| PFC_LAST_FRAG)).trace ++ events ∧
      ¬ OneFirst (received events) := by
  refine ⟨_, _, rfl, rfl, ?_⟩
  rintro ⟨packets, hpackets, -, hone⟩
  have hreceived : List.Forall₂ (fun bytes p => PduPacket.decode bytes = .ok p ∧
      p.header.ptype = .response) (halves (PFC_FIRST_FRAG ||| PFC_LAST_FRAG)).transport.incoming packets :=
    hpackets
  obtain ⟨p, _, -, hrest, rfl⟩ := List.forall₂_cons_left_iff.mp hreceived
  obtain ⟨q, _, ⟨hq, -⟩, -, rfl⟩ := List.forall₂_cons_left_iff.mp hrest
  have hdecode : PduPacket.decode (PduPacket.frame .response 1 (PFC_FIRST_FRAG ||| PFC_LAST_FRAG)
      (responseBody [8])) = .ok (.ofBody .response 1 (PFC_FIRST_FRAG ||| PFC_LAST_FRAG)
        (responseBody [8])) := by decide
  obtain rfl := Except.ok.inj (hdecode.symm.trans hq)
  exact absurd ((hone 1 _ rfl).mp (by decide)) Nat.one_ne_zero

end

end Rpce
