import MsrpceDcerpc.Spec.Fragments
import MsrpceDcerpc.Proof.Send

/-!
# Receiving a response

One round of the loop of `recv_response_fragments` is `responseFragment`, what
the code makes of one PDU (`recvLoop_succ`). A run of the loop goes through
fragments that are not the last (`Unfinished`) and ends with a `LastRound`
(`recvLoop_ends`), and in the other direction these determine the run
(`recvLoop_unfinished`, `LastRound.exec`). From this: what a response is put
together from (`recvLoop_ok`), what the loop leaves unchanged and when it ends
(`recvLoop_kept`), what a fault does (`recvLoop_fault`), and that a PDU queue
that holds a response gives that response (`recvLoop_delivered`).
-/

namespace Rpce

open Rust Endian Segment Eff

/-- What the bytes of a fragment are decoded to has the id of the call. -/
theorem Fragment.callId_of_mem [DataRepresentation] {callId : UInt32}
    {fragments : List (Fragment callId)} {bytes : List UInt8} {packet : PduPacket}
    (hb : bytes ∈ fragments.map (·.bytes)) (hd : PduPacket.decode bytes = .ok packet) :
    packet.header.callId = callId := by
  obtain ⟨f, -, rfl⟩ := List.mem_map.mp hb
  rw [← f.callId_eq, Except.ok.inj (hd.symm.trans f.decode_bytes)]

namespace RpcClient

variable {T A : Type}

/-! ## One PDU -/

section Fragment

variable [DataRepresentation] [RpcAuthProvider A]

/-- What the loop makes of a PDU: whether it is the last, and its part of the
stub. -/
def responseFragment (authProvider : Option A) (expectedCallId : UInt32) (sawFirst : Bool)
    (bytes : List UInt8) : Result (Bool × List UInt8) := do
  let packet ← PduPacket.decode bytes
  checkAuthLevel authProvider
  failIf (packet.header.callId ≠ expectedCallId)
    (Error.invalidPdu "response call id does not match request")
  match packet.header.ptype with
  | .response =>
    failIf ((sawFirst || packet.header.pfcFlags &&& PFC_FIRST_FRAG != 0) = false)
      (Error.invalidPdu "response is missing first fragment")
    let response ← ResponsePdu.decode packet.body
    return (packet.header.pfcFlags &&& PFC_LAST_FRAG != 0, response.stubData)
  | .fault =>
    let fault ← FaultPdu.decode packet.body
    .error (.err (.fault fault.status))
  | _ => .error (.err (.invalidPdu "expected response or fault PDU"))

theorem responseFragment_eq_ok {authProvider : Option A} {expectedCallId : UInt32} {sawFirst last : Bool}
    {bytes stub : List UInt8} :
    responseFragment authProvider expectedCallId sawFirst bytes = .ok (last, stub) ↔
      LevelSupported authProvider ∧ ∃ packet response, PduPacket.decode bytes = .ok packet ∧
        packet.header.callId = expectedCallId ∧ packet.header.ptype = .response ∧
        (sawFirst || packet.header.pfcFlags &&& PFC_FIRST_FRAG != 0) = true ∧
        ResponsePdu.decode packet.body = .ok response ∧
        last = (packet.header.pfcFlags &&& PFC_LAST_FRAG != 0) ∧ stub = response.stubData := by
  simp only [responseFragment, bind_eq_ok, checkAuthLevel_eq_ok, failIf_eq_ok]
  constructor
  · rintro ⟨packet, hpacket, -, hlevel, -, hid, h⟩
    split at h
    · rename_i htype
      simp only [bind_eq_ok, failIf_eq_ok, pure_eq_ok, Except.ok.injEq, Prod.mk.injEq] at h
      obtain ⟨-, hfirst, response, hresponse, hlast, hstub⟩ := h
      exact ⟨hlevel, packet, response, hpacket, Classical.not_not.mp hid, htype,
        Bool.not_eq_false _ ▸ hfirst, hresponse, hlast.symm, hstub.symm⟩
    · obtain ⟨_, _, h⟩ := bind_eq_ok.mp h
      cases h
    · cases h
  · rintro ⟨hlevel, packet, response, hpacket, hid, htype, hfirst, hresponse, rfl, rfl⟩
    refine ⟨packet, hpacket, (), hlevel, (), Classical.not_not.mpr hid, ?_⟩
    simp only [htype, hfirst, Bool.true_eq_false, bind_eq_ok, failIf_eq_ok, not_false_eq_true,
      true_and, exists_const, pure_eq_ok]
    exact ⟨response, hresponse, rfl⟩

/-- A fault of the call ends it with its status. -/
theorem responseFragment_fault {authProvider : Option A} {expectedCallId : UInt32} {sawFirst : Bool}
    {bytes : List UInt8} {packet : PduPacket} {fault : FaultPdu} (hlevel : LevelSupported authProvider)
    (hpacket : PduPacket.decode bytes = .ok packet) (hid : packet.header.callId = expectedCallId)
    (htype : packet.header.ptype = .fault) (hfault : FaultPdu.decode packet.body = .ok fault) :
    responseFragment authProvider expectedCallId sawFirst bytes =
      .error (.err (.fault fault.status)) := by
  have hcheck := checkAuthLevel_eq_ok (u := ()).mpr hlevel
  simp only [responseFragment, hpacket, bind_ok, hcheck, failIf_of_not _ (Classical.not_not.mpr hid),
    htype, hfault]

theorem returns_responseFragment (authProvider : Option A) (expectedCallId : UInt32) (sawFirst : Bool)
    (bytes : List UInt8) :
    Returns (responseFragment authProvider expectedCallId sawFirst bytes) := by
  refine .bind (PduPacket.returns_decode _) fun packet _ => ?_
  refine .bind (returns_checkAuthLevel _) fun _ _ => .bind (.failIf _ _) fun _ _ => ?_
  split
  · exact .bind (.failIf _ _) fun _ _ => .bind (ResponsePdu.returns_decode _) fun _ _ => .ok _
  · exact .bind (FaultPdu.returns_decode _) fun _ _ => .err _
  · exact .err _

/-- The PDUs `frames` are the fragments of a response with the stub `stub`. -/
inductive Response (authProvider : Option A) (expectedCallId : UInt32) :
    Bool → List (List UInt8) → List UInt8 → Prop where
  | last {sawFirst bytes stub} :
      responseFragment authProvider expectedCallId sawFirst bytes = .ok (true, stub) →
      Response authProvider expectedCallId sawFirst [bytes] stub
  | more {sawFirst bytes stub frames rest} :
      responseFragment authProvider expectedCallId sawFirst bytes = .ok (false, stub) →
      Response authProvider expectedCallId true frames rest →
      Response authProvider expectedCallId sawFirst (bytes :: frames) (stub ++ rest)

/-- The PDUs of a response are fragments with the call's own id, and their
stub data is the stub. -/
theorem Response.exists_fragments {authProvider : Option A} {callId : UInt32}
    {sawFirst : Bool} {frames : List (List UInt8)} {stub : List UInt8}
    (h : Response authProvider callId sawFirst frames stub) :
    ∃ fragments : List (Fragment callId), frames = fragments.map (·.bytes) ∧
      stub = fragments.flatMap (·.response.stubData) := by
  induction h with
  | last hpart =>
    obtain ⟨-, packet, response, hpacket, hid, htype, -, hbody, -, rfl⟩ :=
      responseFragment_eq_ok.mp hpart
    exact ⟨[⟨_, packet, response, hpacket, hid, htype, hbody⟩], rfl, (List.append_nil _).symm⟩
  | more hpart _ ih =>
    obtain ⟨fragments, rfl, rfl⟩ := ih
    obtain ⟨-, packet, response, hpacket, hid, htype, -, hbody, -, rfl⟩ :=
      responseFragment_eq_ok.mp hpart
    exact ⟨⟨_, packet, response, hpacket, hid, htype, hbody⟩ :: fragments, rfl, rfl⟩

/-- The PDUs `frames` are fragments of a response, none of them the last, with
the stub data `stub`; after them the first fragment was seen or not. -/
inductive Unfinished (authProvider : Option A) (expectedCallId : UInt32) :
    Bool → List (List UInt8) → List UInt8 → Bool → Prop where
  | nil (sawFirst) : Unfinished authProvider expectedCallId sawFirst [] [] sawFirst
  | more {sawFirst bytes stub frames rest sawFirst'} :
      responseFragment authProvider expectedCallId sawFirst bytes = .ok (false, stub) →
      Unfinished authProvider expectedCallId true frames rest sawFirst' →
      Unfinished authProvider expectedCallId sawFirst (bytes :: frames) (stub ++ rest) sawFirst'

theorem Unfinished.of_mem {authProvider : Option A} {expectedCallId : UInt32} {sawFirst sawFirst' : Bool}
    {frames : List (List UInt8)} {stub bytes : List UInt8}
    (h : Unfinished authProvider expectedCallId sawFirst frames stub sawFirst') (hmem : bytes ∈ frames) :
    ∃ s part, responseFragment authProvider expectedCallId s bytes = .ok (false, part) := by
  induction h with
  | nil => cases hmem
  | more hpart _ ih =>
    rcases List.mem_cons.mp hmem with rfl | hmem
    · exact ⟨_, _, hpart⟩
    · exact ih hmem

/-- A response is fragments that are not the last, and the last. -/
theorem response_iff {authProvider : Option A} {expectedCallId : UInt32} {sawFirst : Bool}
    {frames : List (List UInt8)} {stub : List UInt8} :
    Response authProvider expectedCallId sawFirst frames stub ↔
      ∃ init bytes rest sawFirst' last, frames = init ++ [bytes] ∧ stub = rest ++ last ∧
        Unfinished authProvider expectedCallId sawFirst init rest sawFirst' ∧
        responseFragment authProvider expectedCallId sawFirst' bytes = .ok (true, last) := by
  constructor
  · intro h
    induction h with
    | last hpart => exact ⟨[], _, [], _, _, rfl, rfl, .nil _, hpart⟩
    | more hpart _ ih =>
      obtain ⟨init, bytes, rest, sawFirst', last, rfl, rfl, hinit, hlast⟩ := ih
      exact ⟨_ :: init, bytes, _, _, last, rfl, (List.append_assoc ..).symm, .more hpart hinit, hlast⟩
  · rintro ⟨init, bytes, rest, sawFirst', last, rfl, rfl, hinit, hlast⟩
    induction hinit with
    | nil => exact .last hlast
    | more hpart _ ih =>
      rw [List.append_assoc]
      exact .more hpart (ih hlast)

end Fragment

/-! ## The transport -/

section Transport

variable [RpcTransport T]

theorem recvPdu_exec_of_failed {c : RpcClient T A} {e : Error} {t : T}
    (h : RpcTransport.recvPdu c.transport = (.error e, t)) :
    (onWorld recvPdu).exec c = (.error (.err e), afterRecvError c e t) := exec_zoom (exec_recvPdu h)

theorem recvPdu_exec_of_delivered {c : RpcClient T A} {frame : List UInt8} {t : T}
    (h : RpcTransport.recvPdu c.transport = (.ok frame, t)) :
    (onWorld recvPdu).exec c = (.ok frame, afterRecv c frame t) := exec_zoom (exec_recvPdu h)

end Transport

/-- The deliveries of `frames`. -/
def receiveEvents (frames : List (List UInt8)) : List (Event A) :=
  frames.map fun bytes => .recvPdu (.ok bytes)

theorem extends_afterReceive (c : RpcClient T A) (frames : List (List UInt8)) (t : T) :
    Extends c (c.afterReceive frames t) (receiveEvents frames) := ⟨rfl, rfl, rfl, rfl, rfl⟩

theorem received_receiveEvents (frames : List (List UInt8)) :
    received (receiveEvents (A := A) frames) = frames := by
  rw [received, receiveEvents, List.filterMap_map]
  exact List.filterMap_some

theorem sent_receiveEvents (frames : List (List UInt8)) :
    sent (receiveEvents (A := A) frames) = [] :=
  sent_eq_nil (List.forall_mem_map.mpr fun _ _ => rfl)

theorem stubs_receiveEvents (frames : List (List UInt8)) :
    stubs (receiveEvents (A := A) frames) = [] :=
  List.filterMap_eq_nil_iff.mpr (List.forall_mem_map.mpr fun _ _ => rfl)

/-! ## The loop -/

theorem verifyResponsePacket_exec [RpcAuthProvider A] (bytes : List UInt8) (packet : PduPacket)
    (c : RpcClient T A) :
    (verifyResponsePacket bytes packet).exec c = (checkAuthLevel c.authProvider, c) := rfl

section Loop

variable [DataRepresentation] [RpcTransport T] [RpcAuthProvider A]

/-- One round of the loop. -/
theorem recvLoop_succ (expectedCallId : UInt32) (fuel : Nat) (responseStub : List UInt8)
    (sawFirst : Bool) (c : RpcClient T A) :
    (recvLoop expectedCallId (fuel + 1) responseStub sawFirst).exec c =
      match (onWorld recvPdu).exec c with
      | (.error e, c') => (.error e, c')
      | (.ok bytes, c') =>
        match responseFragment c'.authProvider expectedCallId sawFirst bytes with
        | .error e => (.error e, c')
        | .ok (last, stub) =>
          if last then (.ok (responseStub ++ stub), c')
          else (recvLoop expectedCallId fuel (responseStub ++ stub) true).exec c' := by
  rw [recvLoop, exec_bind]
  rcases (onWorld recvPdu).exec c with ⟨e | bytes, c'⟩
  · rfl
  unfold responseFragment
  cases hp : PduPacket.decode bytes with
  | error e => simp only [exec_bind, exec_lift, hp, bind_error]
  | ok packet =>
    cases hcheck : checkAuthLevel c'.authProvider with
    | error e =>
      simp only [exec_bind, exec_lift, hp, verifyResponsePacket_exec, hcheck, bind_ok, bind_error]
    | ok u =>
      cases hid : (failIf (packet.header.callId ≠ expectedCallId)
          (Error.invalidPdu "response call id does not match request") : Result Unit) with
      | error e =>
        simp only [exec_bind, exec_lift, hp, verifyResponsePacket_exec, hcheck, hid, bind_ok, bind_error]
      | ok u =>
        simp only [exec_bind, exec_lift, hp, verifyResponsePacket_exec, hcheck, hid, bind_ok]
        generalize packet.header.ptype = ptype
        split
        · cases hfirst : (failIf ((sawFirst || packet.header.pfcFlags &&& PFC_FIRST_FRAG != 0) = false)
              (Error.invalidPdu "response is missing first fragment") : Result Unit) with
          | error e => simp only [exec_bind, exec_lift, bind_error]
          | ok u =>
            have hsaw := Bool.not_eq_false _ ▸ failIf_eq_ok.mp hfirst
            cases hresponse : ResponsePdu.decode packet.body with
            | error e => simp only [exec_bind, exec_lift, bind_ok, bind_error]
            | ok response =>
              simp only [exec_bind, exec_lift, bind_ok, hsaw, pure_eq_ok]
              split <;> rfl
        · cases hfault : FaultPdu.decode packet.body with
          | error e => simp only [exec_bind, exec_lift, bind_error]
          | ok fault => simp only [exec_bind, exec_lift, bind_ok, exec_throw]
        · simp only [exec_throw]

/-- The loop goes through the fragments that are not the last. -/
theorem recvLoop_unfinished {expectedCallId : UInt32} {sawFirst sawFirst' : Bool}
    {frames : List (List UInt8)} {stub : List UInt8} {t : T} {c : RpcClient T A}
    (h : Unfinished c.authProvider expectedCallId sawFirst frames stub sawFirst')
    (hd : Delivers c.transport frames t) (fuel : Nat) (responseStub : List UInt8) :
    (recvLoop expectedCallId (fuel + frames.length) responseStub sawFirst).exec c =
      (recvLoop expectedCallId fuel (responseStub ++ stub) sawFirst').exec
        (c.afterReceive frames t) := by
  generalize ha : c.authProvider = authProvider at h
  induction h generalizing c responseStub with
  | nil =>
    cases hd
    rw [afterReceive_nil, List.append_nil]
    rfl
  | @more sawFirst bytes stub frames rest sawFirst' hpart _ ih =>
    cases hd with
    | cons hr hrest =>
      rw [List.length_cons, ← Nat.add_assoc, recvLoop_succ, recvPdu_exec_of_delivered hr]
      simp only [show (afterRecv c bytes _).authProvider = authProvider from ha, hpart,
        Bool.false_eq_true, if_false]
      rw [ih (c := c.afterRecv bytes _) hrest _ ha, List.append_assoc, afterReceive_cons]

/-- The last round of the loop, with what it returns. -/
inductive LastRound (expectedCallId : UInt32) (responseStub : List UInt8) (sawFirst : Bool)
    (c : RpcClient T A) : Result (List UInt8) → RpcClient T A → Prop where
  | transport {e t} : RpcTransport.recvPdu c.transport = (.error e, t) →
      LastRound expectedCallId responseStub sawFirst c (.error (.err e)) (c.afterRecvError e t)
  | refused {bytes e t} : RpcTransport.recvPdu c.transport = (.ok bytes, t) →
      responseFragment c.authProvider expectedCallId sawFirst bytes = .error (.err e) →
      LastRound expectedCallId responseStub sawFirst c (.error (.err e)) (c.afterRecv bytes t)
  | last {bytes stub t} : RpcTransport.recvPdu c.transport = (.ok bytes, t) →
      responseFragment c.authProvider expectedCallId sawFirst bytes = .ok (true, stub) →
      LastRound expectedCallId responseStub sawFirst c (.ok (responseStub ++ stub)) (c.afterRecv bytes t)

theorem LastRound.exec {expectedCallId : UInt32} {responseStub : List UInt8} {sawFirst : Bool}
    {c c' : RpcClient T A} {r : Result (List UInt8)}
    (h : LastRound expectedCallId responseStub sawFirst c r c') (fuel : Nat) :
    (recvLoop expectedCallId (fuel + 1) responseStub sawFirst).exec c = (r, c') := by
  rw [recvLoop_succ]
  cases h with
  | transport hr => rw [recvPdu_exec_of_failed hr]
  | refused hr hpart =>
    rw [recvPdu_exec_of_delivered hr]
    simp only [show ∀ bytes t, (afterRecv c bytes t).authProvider = c.authProvider from fun _ _ => rfl,
      hpart]
  | last hr hpart =>
    rw [recvPdu_exec_of_delivered hr]
    simp only [show ∀ bytes t, (afterRecv c bytes t).authProvider = c.authProvider from fun _ _ => rfl,
      hpart, if_true]

/-- The events of the last round: the one delivery. -/
theorem LastRound.exists_event {expectedCallId : UInt32} {responseStub : List UInt8} {sawFirst : Bool}
    {c c' : RpcClient T A} {r : Result (List UInt8)}
    (h : LastRound expectedCallId responseStub sawFirst c r c') :
    ∃ result, Extends c c' [.recvPdu result] ∧ Returns r ∧ ∀ bytes, result = .ok bytes →
      (∃ e, r = .error (.err e) ∧
        responseFragment c.authProvider expectedCallId sawFirst bytes = .error (.err e)) ∨
      ∃ stub, responseFragment c.authProvider expectedCallId sawFirst bytes = .ok (true, stub) := by
  cases h with
  | transport hr => exact ⟨_, ⟨rfl, rfl, rfl, rfl, rfl⟩, .err _, fun _ h => nomatch h⟩
  | refused hr hpart =>
    refine ⟨_, ⟨rfl, rfl, rfl, rfl, rfl⟩, .err _, fun bytes h => .inl ⟨_, rfl, ?_⟩⟩
    exact Except.ok.inj h ▸ hpart
  | last hr hpart =>
    exact ⟨_, ⟨rfl, rfl, rfl, rfl, rfl⟩, .ok _, fun bytes h => .inr ⟨_, Except.ok.inj h ▸ hpart⟩⟩

/-- A run of the loop: fragments that are not the last, and then the last round,
unless there is none left. -/
theorem recvLoop_ends {expectedCallId : UInt32} {fuel : Nat} {responseStub : List UInt8}
    {sawFirst : Bool} {c c' : RpcClient T A} {r : Result (List UInt8)}
    (h : (recvLoop expectedCallId fuel responseStub sawFirst).exec c = (r, c')) :
    ∃ frames stub sawFirst' t,
      Unfinished c.authProvider expectedCallId sawFirst frames stub sawFirst' ∧
      Delivers c.transport frames t ∧
      (r = .error .fuel ∧ frames.length = fuel ∧ c' = c.afterReceive frames t ∨
        frames.length < fuel ∧
          LastRound expectedCallId (responseStub ++ stub) sawFirst' (c.afterReceive frames t) r c') := by
  induction fuel generalizing c responseStub sawFirst with
  | zero =>
    cases h
    exact ⟨[], [], sawFirst, _, .nil _, .nil _, .inl ⟨rfl, rfl, (afterReceive_nil _).symm⟩⟩
  | succ fuel ih =>
    -- the rounds that end the loop: there is no fragment before them
    have hround : ∀ r₁ c₁, LastRound expectedCallId responseStub sawFirst c r₁ c₁ →
        ∃ frames stub sawFirst' t,
          Unfinished c.authProvider expectedCallId sawFirst frames stub sawFirst' ∧
          Delivers c.transport frames t ∧
          (r = .error .fuel ∧ frames.length = fuel + 1 ∧ c' = c.afterReceive frames t ∨
            frames.length < fuel + 1 ∧
              LastRound expectedCallId (responseStub ++ stub) sawFirst' (c.afterReceive frames t) r c') := by
      intro r₁ c₁ hlast
      obtain ⟨rfl, rfl⟩ := Prod.mk.inj ((hlast.exec fuel).symm.trans h)
      refine ⟨[], [], sawFirst, c.transport, .nil _, .nil _, .inr ⟨Nat.succ_pos _, ?_⟩⟩
      rw [afterReceive_nil, List.append_nil]
      exact hlast
    rcases hr : RpcTransport.recvPdu c.transport with ⟨e | bytes, t⟩
    · exact hround _ _ (.transport hr)
    · have hreturns := returns_responseFragment c.authProvider expectedCallId sawFirst bytes
      rcases hpart : responseFragment c.authProvider expectedCallId sawFirst bytes with e | ⟨last, stub⟩
      · rw [hpart] at hreturns
        cases hreturns
        exact hround _ _ (.refused hr hpart)
      · cases last with
        | true => exact hround _ _ (.last hr hpart)
        | false =>
          rw [recvLoop_succ, recvPdu_exec_of_delivered hr] at h
          simp only [show (afterRecv c bytes t).authProvider = c.authProvider from rfl, hpart,
            Bool.false_eq_true, if_false] at h
          obtain ⟨frames, rest, sawFirst', t', hrest, hd, hends⟩ := ih h
          refine ⟨bytes :: frames, stub ++ rest, sawFirst', t', .more hpart hrest, .cons hr hd, ?_⟩
          rw [afterReceive_cons, List.append_assoc] at hends
          exact hends.imp (fun ⟨hf, hl, hc⟩ => ⟨hf, congrArg (· + 1) hl, hc⟩)
            fun ⟨hlt, hlast⟩ => ⟨Nat.succ_lt_succ hlt, hlast⟩

/-- The loop only receives, and returns unless it was delivered as many PDUs
as it has rounds. -/
theorem recvLoop_kept {expectedCallId : UInt32} {fuel : Nat} {responseStub : List UInt8}
    {sawFirst : Bool} {c c' : RpcClient T A} {r : Result (List UInt8)}
    (h : (recvLoop expectedCallId fuel responseStub sawFirst).exec c = (r, c')) :
    ∃ events, Extends c c' events ∧ sent events = [] ∧ stubs events = [] ∧
      (Returns r ∨ r = .error .fuel ∧ (received events).length = fuel) := by
  obtain ⟨frames, stub, sawFirst', t, -, -, ⟨rfl, rfl, rfl⟩ | ⟨-, hlast⟩⟩ := recvLoop_ends h
  · exact ⟨_, extends_afterReceive c frames t, sent_receiveEvents frames, stubs_receiveEvents frames,
      .inr ⟨rfl, by rw [received_receiveEvents]⟩⟩
  · obtain ⟨result, hext, hr, -⟩ := hlast.exists_event
    refine ⟨_, (extends_afterReceive c frames t).trans hext, ?_, ?_, .inl hr⟩
    · rw [sent_append, sent_receiveEvents]
      rfl
    · rw [stubs_append, stubs_receiveEvents]
      rfl

/-- A fault of the call among the PDUs ends the loop with its status. -/
theorem recvLoop_fault {expectedCallId : UInt32} {fuel : Nat} {responseStub : List UInt8}
    {sawFirst : Bool} {c c' : RpcClient T A} {r : Result (List UInt8)} {events : List (Event A)}
    {bytes : List UInt8} {packet : PduPacket} {fault : FaultPdu}
    (h : (recvLoop expectedCallId fuel responseStub sawFirst).exec c = (r, c'))
    (htrace : c'.trace = c.trace ++ events) (hmem : bytes ∈ received events)
    (hlevel : LevelSupported c.authProvider) (hpacket : PduPacket.decode bytes = .ok packet)
    (hid : packet.header.callId = expectedCallId) (htype : packet.header.ptype = .fault)
    (hfault : FaultPdu.decode packet.body = .ok fault) : r = .error (.err (.fault fault.status)) := by
  have hpart : ∀ s, responseFragment c.authProvider expectedCallId s bytes = _ := fun s =>
    responseFragment_fault hlevel hpacket hid htype hfault
  obtain ⟨frames, stub, sawFirst', t, hframes, -, ⟨-, -, rfl⟩ | ⟨-, hlast⟩⟩ := recvLoop_ends h
  · obtain rfl := (extends_afterReceive c frames t).eq_of_trace htrace
    rw [received_receiveEvents] at hmem
    obtain ⟨s, part, hok⟩ := hframes.of_mem hmem
    cases hok.symm.trans (hpart s)
  · obtain ⟨result, hext, -, hresult⟩ := hlast.exists_event
    obtain rfl := ((extends_afterReceive c frames t).trans hext).eq_of_trace htrace
    rw [received_append, received_receiveEvents] at hmem
    rcases List.mem_append.mp hmem with hmem | hmem
    · obtain ⟨s, part, hok⟩ := hframes.of_mem hmem
      cases hok.symm.trans (hpart s)
    · cases result with
      | error e => exact absurd hmem List.not_mem_nil
      | ok bytes' =>
        obtain rfl := List.mem_singleton.mp hmem
        obtain ⟨e, rfl, herror⟩ | ⟨part, hok⟩ := hresult _ rfl
        · rw [Stop.err.inj (Except.error.inj (herror.symm.trans (hpart sawFirst')))]
        · cases hok.symm.trans (hpart sawFirst')

/-- A stub is returned for the fragments of a response, and for nothing else. -/
theorem recvLoop_ok {expectedCallId : UInt32} {fuel : Nat} {responseStub stub : List UInt8}
    {sawFirst : Bool} {c c' : RpcClient T A}
    (h : (recvLoop expectedCallId fuel responseStub sawFirst).exec c = (.ok stub, c')) :
    ∃ frames t rest, frames.length ≤ fuel ∧ Delivers c.transport frames t ∧
      c' = c.afterReceive frames t ∧ stub = responseStub ++ rest ∧
      Response c.authProvider expectedCallId sawFirst frames rest := by
  obtain ⟨frames, rest, sawFirst', t, hrest, hd, ⟨hf, -, -⟩ | ⟨hlt, hlast⟩⟩ := recvLoop_ends h
  · cases hf
  cases hlast with
  | @last bytes part t' hr hpart =>
    have hresponse := response_iff.mpr ⟨frames, bytes, rest, sawFirst', part, rfl, rfl, hrest, hpart⟩
    refine ⟨frames ++ [bytes], t', rest ++ part, ?_, hd.append (.cons hr (.nil _)),
      afterRecv_afterReceive .., List.append_assoc .., hresponse⟩
    rw [List.length_append]
    exact hlt

/-- A transport that delivers the fragments of a response: the loop returns
its stub, and has read no further. -/
theorem recvLoop_delivered {expectedCallId : UInt32} {fuel : Nat} (responseStub : List UInt8)
    {stub : List UInt8} {sawFirst : Bool} {c : RpcClient T A} {authProvider : Option A}
    {frames : List (List UInt8)} {t : T} (hauth : c.authProvider = authProvider)
    (hr : Response authProvider expectedCallId sawFirst frames stub)
    (hd : Delivers c.transport frames t) (hfuel : frames.length ≤ fuel) :
    (recvLoop expectedCallId fuel responseStub sawFirst).exec c =
      (.ok (responseStub ++ stub), c.afterReceive frames t) := by
  subst hauth
  obtain ⟨init, bytes, rest, sawFirst', last, rfl, rfl, hinit, hlast⟩ := response_iff.mp hr
  obtain ⟨t₁, hd₁, hd₂⟩ := hd.of_append
  cases hd₂ with
  | cons hrecv hnil =>
    cases hnil
    rw [List.length_append, List.length_singleton] at hfuel
    obtain ⟨n, rfl⟩ : ∃ n, fuel = n + 1 + init.length := ⟨fuel - 1 - init.length, by omega⟩
    have hround : LastRound expectedCallId (responseStub ++ rest) sawFirst' (c.afterReceive init t₁) _ _ :=
      .last hrecv hlast
    rw [recvLoop_unfinished hinit hd₁, hround.exec, afterRecv_afterReceive, List.append_assoc]

/-- More rounds change nothing once the loop has returned. -/
theorem recvLoop_mono {expectedCallId : UInt32} {fuel fuel' : Nat} {responseStub : List UInt8}
    {sawFirst : Bool} {c c' : RpcClient T A} {r : Result (List UInt8)} (hle : fuel ≤ fuel')
    (h : (recvLoop expectedCallId fuel responseStub sawFirst).exec c = (r, c')) (hr : r ≠ .error .fuel) :
    (recvLoop expectedCallId fuel' responseStub sawFirst).exec c = (r, c') := by
  induction fuel generalizing fuel' c responseStub sawFirst with
  | zero =>
    cases h
    exact absurd rfl hr
  | succ fuel ih =>
    obtain ⟨fuel', rfl⟩ : ∃ n, fuel' = n + 1 :=
      ⟨fuel' - 1, (Nat.sub_add_cancel (Nat.le_trans (Nat.succ_pos _) hle)).symm⟩
    rw [recvLoop_succ] at h ⊢
    rcases hrecv : (onWorld recvPdu : Eff (Stop Error) (RpcClient T A) _).exec c with ⟨e | bytes, c₁⟩
    · rw [hrecv] at h
      exact h
    · rw [hrecv] at h
      dsimp only at h ⊢
      cases hf : responseFragment c₁.authProvider expectedCallId sawFirst bytes with
      | error e =>
        rw [hf] at h
        exact h
      | ok part =>
        rw [hf] at h
        dsimp only at h ⊢
        split at h
        · rename_i hlast
          rw [if_pos hlast]
          exact h
        · rename_i hlast
          rw [if_neg hlast]
          exact ih (Nat.le_of_succ_le_succ hle) h

end Loop

end RpcClient

end Rpce
