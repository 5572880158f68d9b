import MsrpceDcerpc.Proof.Answers
import MsrpceDcerpc.Spec.Interruption

/-!
# Calls over a connection with interruptions

A call that is interrupted while its answer is on its way leaves the rest of it
on the connection. From then on the connection is `Lost`: the next call finds
the rest there, with an id that is not its own, and leaves its own answer behind
in its place (`Lost.exists_callStep`), and so does every call after it, until
the ids come back. What each call returns is `interruptedResults`
(`interrupted_session`): no call returns the answer to another, and none after
the interruption returns an answer.
-/

namespace Rpce

open Rust Eff RpcClient

variable {A σ : Type}

section

variable [DataRepresentation]

/-! ## Foreign PDUs -/

theorem RpcClient.responseFragment_foreign [RpcAuthProvider A] {authProvider : Option A}
    (hlevel : LevelSupported authProvider) {callId : UInt32} {bytes : List UInt8} {packet : PduPacket}
    (hpacket : PduPacket.decode bytes = .ok packet) (hid : packet.header.callId ≠ callId)
    (sawFirst : Bool) : responseFragment authProvider callId sawFirst bytes =
      .error (.err (.invalidPdu "response call id does not match request")) := by
  rw [responseFragment, hpacket, bind_ok, checkAuthLevel_eq_ok (u := ()).mpr hlevel, bind_ok,
    failIf_of _ hid, bind_error]

namespace Answer

variable {drep : PackedDrep}

/-- The PDUs of an answer have the id of its call. -/
theorem decode_of_mem_pdus (hdrep : DataRepresentation.fromBytes drep = .ok .little) {callId : UInt32}
    {answer : Answer} {bytes : List UInt8} (h : bytes ∈ answer.pdus drep callId) :
    ∃ packet, PduPacket.decode bytes = .ok packet ∧ packet.header.callId = callId := by
  cases answer with
  | response r =>
    obtain ⟨f, -, rfl⟩ := List.mem_map.mp h
    have hlen := ResponsePdu.length_wire .little f.response f.reserved
    have hfits := f.fits
    exact ⟨_, decode_pdu hdrep (by omega) _ _ _ _, rfl⟩
  | fault versionMinor pfcFlags f reserved hfits =>
    rw [List.mem_singleton.mp h]
    have hlen := FaultPdu.length_wire .little f reserved
    exact ⟨_, decode_pdu hdrep (by omega) _ _ _ _, rfl⟩

omit [DataRepresentation] in
theorem length_pdus (drep : PackedDrep) (callId : UInt32) (answer : Answer) :
    (answer.pdus drep callId).length = answer.count := by
  cases answer with
  | response r => exact List.length_map _
  | fault => rfl

omit [DataRepresentation] in
theorem pdus_ne_nil (callId : UInt32) (answer : Answer) : answer.pdus drep callId ≠ [] := by
  cases answer with
  | response r =>
    intro h
    exact List.append_ne_nil_of_right_ne_nil _ (List.cons_ne_nil _ _) (List.map_eq_nil_iff.mp h)
  | fault => exact List.cons_ne_nil _ _

end Answer

variable [UuidCrate] {server : Server σ}

theorem Server.length_answers (s : σ) (requests : List (UInt16 × UInt16 × List UInt8)) :
    (server.answers s requests).length = requests.length := by
  induction requests generalizing s with
  | nil => rfl
  | cons request requests ih => exact congrArg (· + 1) (ih _)

/-! ## The connection -/

namespace Interrupted

variable {t : Interrupted (Connection server)}

theorem recvPdu_of_some {e : Error} (h : t.interruptions.head?.join = some e) :
    RpcTransport.recvPdu t = (.error e, { t with interruptions := t.interruptions.tail }) := by
  simp only [RpcTransport.recvPdu, h]

theorem recvPdu_of_none {frame : List UInt8} {rest : List (List UInt8)}
    (h : t.interruptions.head?.join = none) (hout : t.inner.outgoing = frame :: rest) :
    RpcTransport.recvPdu t = (.ok frame,
      { inner := { t.inner with outgoing := rest }, interruptions := t.interruptions.tail }) := by
  simp only [RpcTransport.recvPdu, h, hout]

/-- The connection after the request of a call. -/
def serving (c : RpcClient (Interrupted (Connection server)) A) (opnum : UInt16) (stub : List UInt8) :
    Interrupted (Connection server) :=
  { c.transport with
    inner := c.transport.inner.serve { callId := c.callId, ctxId := c.contextId, opnum, stub } }

/-- The request leaves the server with it, and the connection with its answer. -/
theorem acceptsAll_requestFrames (hd : WindowsDefaultLittle)
    {c : RpcClient (Interrupted (Connection server)) A} (hx : 24 < c.maxXmitFrag.toNat) (opnum : UInt16)
    (stub : List UInt8) :
    AcceptsAll c.transport (requestFrames c.callId c.contextId opnum stub c.maxXmitFrag)
      (serving c opnum stub) := by
  have hsend (t : Interrupted (Connection server)) (bytes : List UInt8) :
      RpcTransport.sendPdu t bytes = (.ok (), { t with inner := t.inner.receive bytes }) := rfl
  have haccepts := acceptsAll_foldl hsend c.transport
    (requestFrames c.callId c.contextId opnum stub c.maxXmitFrag)
  have hfold : ∀ (frames : List (List UInt8)) (t : Interrupted (Connection server)),
      frames.foldl (fun t bytes => { t with inner := t.inner.receive bytes }) t =
        { t with inner := frames.foldl Connection.receive t.inner } := by
    intro frames
    induction frames with
    | nil => exact fun _ => rfl
    | cons frame frames ih => exact fun t => ih _
  rw [hfold, Connection.receive_requestFrames hd _ c.callId c.contextId opnum stub hx] at haccepts
  exact haccepts

/-- Receives of which none is interrupted. -/
theorem delivers_of_none {frames rest : List (List UInt8)} {interruptions : List (Option Error)}
    (hout : t.inner.outgoing = frames ++ rest)
    (h : firstInterruption frames.length t.interruptions = (none, interruptions)) :
    Delivers t frames { inner := { t.inner with outgoing := rest }, interruptions } := by
  induction frames generalizing t with
  | nil =>
    obtain ⟨⟨state, collecting, outgoing, served⟩, interruptions⟩ := t
    cases hout
    cases h
    exact .nil _
  | cons frame frames ih =>
    rw [List.length_cons, firstInterruption] at h
    cases hhead : t.interruptions.head?.join with
    | some e =>
      rw [hhead] at h
      cases h
    | none =>
      rw [hhead] at h
      exact .cons (recvPdu_of_none hhead hout) (ih rfl h)

/-- Receives of which one is: those before it deliver what comes first, and the
rest stays. -/
theorem delivers_of_some {frames rest : List (List UInt8)} {interruptions : List (Option Error)}
    {e : Error} (hout : t.inner.outgoing = frames ++ rest)
    (h : firstInterruption frames.length t.interruptions = (some e, interruptions)) :
    ∃ init left t', frames = init ++ left ∧ left ≠ [] ∧ Delivers t init t' ∧
      RpcTransport.recvPdu t' =
        (.error e, { inner := { t.inner with outgoing := left ++ rest }, interruptions }) := by
  induction frames generalizing t with
  | nil => cases h
  | cons frame frames ih =>
    rw [List.length_cons, firstInterruption] at h
    cases hhead : t.interruptions.head?.join with
    | some e' =>
      rw [hhead] at h
      cases h
      refine ⟨[], frame :: frames, t, rfl, List.cons_ne_nil _ _, .nil t, ?_⟩
      rw [recvPdu_of_some hhead, ← hout]
    | none =>
      rw [hhead] at h
      obtain ⟨init, left, t', rfl, hne, hd, hrecv⟩ :=
        ih (t := { inner := { t.inner with outgoing := frames ++ rest }, interruptions := _ }) rfl h
      exact ⟨frame :: init, left, t', rfl, hne, .cons (recvPdu_of_none hhead hout) hd, hrecv⟩

end Interrupted

/-! ## A call that is not interrupted, and one that is -/

variable [RpcAuthProvider A]

/-- Between two calls, with nothing on the connection. -/
structure InStep (c : RpcClient (Interrupted (Connection server)) A) : Prop where
  supported : LevelSupported c.authProvider
  room : 24 < c.maxXmitFrag.toNat
  callId : c.callId ≠ 0
  outgoing : c.transport.inner.outgoing = []

/-- Between two calls, with something on the connection that none of the next
`n` calls has the id of. -/
structure Lost (n : Nat) (c : RpcClient (Interrupted (Connection server)) A) : Prop where
  supported : LevelSupported c.authProvider
  room : 24 < c.maxXmitFrag.toNat
  callId : c.callId ≠ 0
  outgoing : c.transport.inner.outgoing ≠ []
  foreign : ∀ bytes ∈ c.transport.inner.outgoing, ∃ packet, PduPacket.decode bytes = .ok packet ∧
    ∀ i < n, packet.header.callId.toNat ≠ callIdAfter c.callId i

/-- The PDUs of an answer are foreign to the calls after it. -/
theorem Answer.foreign {answer : Answer} {callId : UInt32} {n : Nat} (hid : callId ≠ 0)
    (hn : n < 2 ^ 32 - 1) {bytes : List UInt8} (h : bytes ∈ answer.pdus server.drep callId) :
    ∃ packet, PduPacket.decode bytes = .ok packet ∧
      ∀ i < n, packet.header.callId.toNat ≠ callIdAfter (succCallId callId) i := by
  obtain ⟨packet, hpacket, hcall⟩ := decode_of_mem_pdus server.drep_little h
  refine ⟨packet, hpacket, fun i hi => ?_⟩
  rw [hcall, ← callIdAfter_zero hid, callIdAfter_succ hid]
  exact callIdAfter_ne (Nat.succ_pos i) (by omega)

/-- A call that is not interrupted returns its answer. -/
theorem InStep.exists_answered (hd : WindowsDefaultLittle)
    {c : RpcClient (Interrupted (Connection server)) A} (h : InStep c) (opnum : UInt16)
    (stub : List UInt8) {interruptions : List (Option Error)}
    (hnone : firstInterruption (server.reply c.transport.inner.state c.contextId opnum stub).1.count
      c.transport.interruptions = (none, interruptions)) :
    ∃ call c', CallStep c call c' ∧ (call.opnum, call.requestStub) = (opnum, stub) ∧
      call.result = (server.reply c.transport.inner.state c.contextId opnum stub).1.result ∧
      InStep c' ∧ c'.contextId = c.contextId ∧ c'.transport.interruptions = interruptions ∧
      c'.transport.inner.state = (server.reply c.transport.inner.state c.contextId opnum stub).2 ∧
      c'.transport.inner.served = c.transport.inner.served ++ [(c.contextId, opnum, stub)] := by
  have haccepts := Interrupted.acceptsAll_requestFrames hd h.room opnum stub
  have hout : (Interrupted.serving c opnum stub).inner.outgoing =
      (server.reply c.transport.inner.state c.contextId opnum stub).1.pdus server.drep c.callId ++ [] := by
    rw [Interrupted.serving, Connection.serve, h.outgoing, List.append_nil]
    rfl
  rw [← Answer.length_pdus server.drep c.callId] at hnone
  obtain ⟨call, c', hstep, hargs, hresult, ht⟩ := CallStep.of_answer h.room h.supported haccepts
    server.drep_little (Interrupted.delivers_of_none hout hnone)
  have hext := hstep.spec.extends_started
  refine ⟨call, c', hstep, hargs, hresult, ⟨?_, ?_, ?_, by rw [ht]⟩, hext.contextId, by rw [ht],
    by rw [ht]; rfl, by rw [ht]; rfl⟩
  · rw [hext.authProvider]
    exact h.supported
  · rw [hext.maxXmitFrag]
    exact h.room
  · rw [hext.callId]
    exact succCallId_ne_zero h.callId

/-- A call that is interrupted leaves a part of its answer behind. -/
theorem InStep.exists_interrupted (hd : WindowsDefaultLittle)
    {c : RpcClient (Interrupted (Connection server)) A} (h : InStep c) (opnum : UInt16)
    (stub : List UInt8) {interruptions : List (Option Error)} {e : Error}
    (hsome : firstInterruption (server.reply c.transport.inner.state c.contextId opnum stub).1.count
      c.transport.interruptions = (some e, interruptions)) {n : Nat} (hn : n < 2 ^ 32 - 1) :
    ∃ call c', CallStep c call c' ∧ (call.opnum, call.requestStub) = (opnum, stub) ∧
      call.result = .error (.err e) ∧ Lost n c' ∧ c'.contextId = c.contextId ∧
      c'.transport.interruptions = interruptions ∧
      c'.transport.inner.served = c.transport.inner.served ++ [(c.contextId, opnum, stub)] := by
  have haccepts := Interrupted.acceptsAll_requestFrames hd h.room opnum stub
  have hout : (Interrupted.serving c opnum stub).inner.outgoing =
      (server.reply c.transport.inner.state c.contextId opnum stub).1.pdus server.drep c.callId ++ [] := by
    rw [Interrupted.serving, Connection.serve, h.outgoing, List.append_nil]
    rfl
  rw [← Answer.length_pdus server.drep c.callId] at hsome
  obtain ⟨init, left, t', hpdus, hne, hdelivers, hrecv⟩ := Interrupted.delivers_of_some hout hsome
  obtain ⟨rounds, bytes, stub', sawFirst, hrounds, hunfinished, -⟩ := Answer.rounds server.drep_little
    h.supported c.callId (server.reply c.transport.inner.state c.contextId opnum stub).1
  -- what was delivered is not the last PDU of the answer
  have hinit : rounds = init ++ left.dropLast := by
    rw [← List.dropLast_append_of_ne_nil hne, ← hpdus, hrounds, List.dropLast_concat]
  obtain ⟨stub₁, sawFirst₁, hunfinished⟩ := (hinit ▸ hunfinished).of_append
  have hround : LastRound c.callId stub₁ sawFirst₁ ((requested c opnum stub
      (Interrupted.serving c opnum stub)).afterReceive init t') (.error (.err e)) _ := .transport hrecv
  obtain ⟨call, hstep, hargs, hresult⟩ := CallStep.of_lastRound h.room h.supported haccepts hunfinished
    hdelivers hround (fun h => by cases h)
  refine ⟨call, _, hstep, hargs, hresult, ⟨h.supported, h.room, succCallId_ne_zero h.callId, ?_, ?_⟩,
    rfl, rfl, rfl⟩
  · show left ++ [] ≠ []
    rw [List.append_nil]
    exact hne
  · show ∀ bytes ∈ left ++ [], _
    rw [List.append_nil]
    intro bytes hb
    exact Answer.foreign h.callId hn (by rw [hpdus]; exact List.mem_append_right _ hb)

/-! ## The calls after it -/

/-- A call on a connection that is lost fails, and leaves it lost. -/
theorem Lost.exists_callStep (hd : WindowsDefaultLittle)
    {c : RpcClient (Interrupted (Connection server)) A} {n : Nat} (h : Lost (n + 1) c)
    (hn : n < 2 ^ 32 - 1) (opnum : UInt16) (stub : List UInt8) :
    ∃ call c', CallStep c call c' ∧ (call.opnum, call.requestStub) = (opnum, stub) ∧
      call.result = .error (.err (c.transport.interruptions.head?.join.getD
        (.invalidPdu "response call id does not match request"))) ∧
      Lost n c' ∧ c'.contextId = c.contextId ∧
      c'.transport.interruptions = c.transport.interruptions.tail ∧
      c'.transport.inner.served = c.transport.inner.served ++ [(c.contextId, opnum, stub)] := by
  have haccepts := Interrupted.acceptsAll_requestFrames hd h.room opnum stub
  obtain ⟨frame, frames, hcons⟩ := List.exists_cons_of_ne_nil h.outgoing
  generalize hanswer : server.reply c.transport.inner.state c.contextId opnum stub = reply
  have hout : (Interrupted.serving c opnum stub).inner.outgoing =
      frame :: (frames ++ reply.1.pdus server.drep c.callId) := by
    rw [Interrupted.serving, Connection.serve, hcons, hanswer]
    rfl
  -- of what is on the connection, nothing is for the calls to come
  have hforeign : ∀ bytes ∈ frame :: (frames ++ reply.1.pdus server.drep c.callId), ∃ packet,
      PduPacket.decode bytes = .ok packet ∧
        ∀ i < n, packet.header.callId.toNat ≠ callIdAfter (succCallId c.callId) i := by
    intro bytes hb
    rw [← List.cons_append, ← hcons] at hb
    rcases List.mem_append.mp hb with hb | hb
    · obtain ⟨packet, hpacket, hids⟩ := h.foreign bytes hb
      refine ⟨packet, hpacket, fun i hi => ?_⟩
      rw [callIdAfter_succ h.callId]
      exact hids (i + 1) (Nat.succ_lt_succ hi)
    · exact Answer.foreign h.callId hn hb
  cases hhead : c.transport.interruptions.head?.join with
  | some e =>
    have hrecv := Interrupted.recvPdu_of_some (t := Interrupted.serving c opnum stub) hhead
    have hround : LastRound c.callId [] false ((requested c opnum stub
        (Interrupted.serving c opnum stub)).afterReceive [] (Interrupted.serving c opnum stub))
        (.error (.err e)) _ := .transport hrecv
    obtain ⟨call, hstep, hargs, hresult⟩ := CallStep.of_lastRound h.room h.supported haccepts
      (.nil false) (.nil _) hround (fun h => by cases h)
    refine ⟨call, _, hstep, hargs, hresult, ⟨h.supported, h.room, succCallId_ne_zero h.callId, ?_, ?_⟩,
      rfl, rfl, rfl⟩
    · show (Interrupted.serving c opnum stub).inner.outgoing ≠ []
      rw [hout]
      exact List.cons_ne_nil _ _
    · show ∀ bytes ∈ (Interrupted.serving c opnum stub).inner.outgoing, _
      rw [hout]
      exact hforeign
  | none =>
    have hrecv := Interrupted.recvPdu_of_none (t := Interrupted.serving c opnum stub) hhead hout
    obtain ⟨packet, hpacket, hids⟩ := h.foreign frame (hcons ▸ List.mem_cons_self)
    have hid : packet.header.callId ≠ c.callId := fun heq => by
      refine hids 0 (Nat.succ_pos n) ?_
      rw [heq, callIdAfter_zero h.callId]
    have hround : LastRound c.callId [] false ((requested c opnum stub
        (Interrupted.serving c opnum stub)).afterReceive [] (Interrupted.serving c opnum stub))
        (.error (.err _)) _ := .refused hrecv (responseFragment_foreign h.supported hpacket hid false)
    obtain ⟨call, hstep, hargs, hresult⟩ := CallStep.of_lastRound h.room h.supported haccepts
      (.nil false) (.nil _) hround (fun h => by cases h)
    refine ⟨call, _, hstep, hargs, hresult, ⟨h.supported, h.room, succCallId_ne_zero h.callId, ?_, ?_⟩,
      rfl, rfl, rfl⟩
    · show frames ++ reply.1.pdus server.drep c.callId ≠ []
      exact List.append_ne_nil_of_right_ne_nil _ (Answer.pdus_ne_nil _ _)
    · exact fun bytes hb => hforeign bytes (List.mem_cons_of_mem _ hb)

theorem Lost.exists_session (hd : WindowsDefaultLittle) (requests : List (UInt16 × List UInt8))
    {c : RpcClient (Interrupted (Connection server)) A} (h : Lost requests.length c)
    (hlen : requests.length ≤ 2 ^ 32 - 1) :
    ∃ calls c', Session c calls c' ∧
      calls.map (fun call => (call.opnum, call.requestStub)) = requests ∧
      calls.map (·.result) = lostResults c.transport.interruptions requests.length ∧
      c'.transport.inner.served = c.transport.inner.served ++
        requests.map fun request => (c.contextId, request) := by
  induction requests generalizing c with
  | nil => exact ⟨[], c, .nil c, rfl, rfl, (List.append_nil _).symm⟩
  | cons request requests ih =>
    obtain ⟨opnum, stub⟩ := request
    obtain ⟨call, c₁, hstep, hargs, hresult, hlost, hctx, his, hserved⟩ := h.exists_callStep hd hlen opnum stub
    obtain ⟨calls, c', hrun, hargs', hresults, hserved'⟩ := ih hlost (Nat.le_of_succ_le hlen)
    refine ⟨call :: calls, c', .cons hstep hrun, ?_, ?_, ?_⟩
    · rw [List.map_cons, hargs, hargs']
    · rw [List.map_cons, hresult, hresults, his]
      rfl
    · rw [hserved', hserved, hctx, List.append_assoc]
      rfl

/-! ## A session -/

theorem InStep.exists_session (hd : WindowsDefaultLittle) (requests : List (UInt16 × List UInt8))
    {c : RpcClient (Interrupted (Connection server)) A} (h : InStep c)
    (hlen : requests.length ≤ 2 ^ 32 - 1) :
    ∃ calls c', Session c calls c' ∧
      calls.map (fun call => (call.opnum, call.requestStub)) = requests ∧
      calls.map (·.result) = interruptedResults c.transport.interruptions
        (server.answers c.transport.inner.state (requests.map fun request => (c.contextId, request))) ∧
      c'.transport.inner.served = c.transport.inner.served ++
        requests.map fun request => (c.contextId, request) := by
  induction requests generalizing c with
  | nil => exact ⟨[], c, .nil c, rfl, rfl, (List.append_nil _).symm⟩
  | cons request requests ih =>
    obtain ⟨opnum, stub⟩ := request
    have hanswers : server.answers c.transport.inner.state
        (((opnum, stub) :: requests).map fun request => (c.contextId, request)) =
      (server.reply c.transport.inner.state c.contextId opnum stub).1 ::
        server.answers (server.reply c.transport.inner.state c.contextId opnum stub).2
          (requests.map fun request => (c.contextId, request)) := rfl
    rw [hanswers, interruptedResults]
    rcases hfirst : firstInterruption (server.reply c.transport.inner.state c.contextId opnum stub).1.count
      c.transport.interruptions with ⟨_ | e, interruptions⟩
    · obtain ⟨call, c₁, hstep, hargs, hresult, hin, hctx, his, hstate, hserved⟩ :=
        h.exists_answered hd opnum stub hfirst
      obtain ⟨calls, c', hrun, hargs', hresults, hserved'⟩ := ih hin (Nat.le_of_succ_le hlen)
      refine ⟨call :: calls, c', .cons hstep hrun, ?_, ?_, ?_⟩
      · rw [List.map_cons, hargs, hargs']
      · rw [List.map_cons, hresult, hresults, his, hstate, hctx]
      · rw [hserved', hserved, hctx, List.append_assoc]
        rfl
    · obtain ⟨call, c₁, hstep, hargs, hresult, hlost, hctx, his, hserved⟩ :=
        h.exists_interrupted hd opnum stub hfirst (n := requests.length) hlen
      obtain ⟨calls, c', hrun, hargs', hresults, hserved'⟩ :=
        hlost.exists_session hd requests (Nat.le_of_succ_le hlen)
      refine ⟨call :: calls, c', .cons hstep hrun, ?_, ?_, ?_⟩
      · rw [List.map_cons, hargs, hargs']
      · rw [List.map_cons, hresult, hresults, his, Server.length_answers, List.length_map]
      · rw [hserved', hserved, hctx, List.append_assoc]
        rfl

/-- What the calls of a session over a connection with interruptions return. Up
to the first interruption it is the answers of the server. The call that is
interrupted fails, and so does every call after it, while the server goes on to
get and answer each request. -/
theorem interrupted_session (hd : WindowsDefaultLittle)
    {c : RpcClient (Interrupted (Connection server)) A} (h : InStep c)
    (requests : List (UInt16 × List UInt8)) (hlen : requests.length ≤ 2 ^ 32 - 1) :
    (∃ calls c', Session c calls c' ∧
      calls.map (fun call => (call.opnum, call.requestStub)) = requests) ∧
    ∀ calls c', Session c calls c' →
      calls.map (fun call => (call.opnum, call.requestStub)) = requests →
      calls.map (·.result) = interruptedResults c.transport.interruptions
        (server.answers c.transport.inner.state (requests.map fun request => (c.contextId, request))) ∧
      c'.transport.inner.served = c.transport.inner.served ++
        requests.map fun request => (c.contextId, request) := by
  obtain ⟨calls, c', hrun, hargs, hresults, hserved⟩ := h.exists_session hd requests hlen
  refine ⟨⟨calls, c', hrun, hargs⟩, fun calls' c'' hrun' hargs' => ?_⟩
  obtain ⟨rfl, rfl⟩ := hrun.deterministic (fun call => (call.opnum, call.requestStub))
    (fun _ _ _ _ _ => CallStep.deterministic) hrun' (hargs.trans hargs'.symm)
  exact ⟨hresults, hserved⟩

end

section

open Standard

/-- An interruption in the middle of the second of four answers. -/
theorem interrupted_session_echo :
    let transport : Interrupted (Connection echoServer) :=
      ⟨.start echoServer 0, [none, none, some (.transport "timed out")]⟩
    ∃ (calls : List (Call FixedProvider)) (c' : RpcClient _ FixedProvider),
      Session (newBound transport 0) calls c' ∧
      calls.map (·.result) = [.ok [1], .error (.err (.transport "timed out")),
        .error (.err (.invalidPdu "response call id does not match request")),
        .error (.err (.invalidPdu "response call id does not match request"))] ∧
      c'.transport.inner.served = [(0, 7, [1]), (0, 7, [2]), (0, 7, [3]), (0, 7, [4])] := by
  intro transport
  have hin : InStep (newBound (A := FixedProvider) transport 0) :=
    ⟨fun a ha => (by cases ha), by decide, by decide, rfl⟩
  obtain ⟨⟨calls, c', hrun, hargs⟩, hall⟩ := interrupted_session windowsDefaultLittle hin
    [(7, [1]), (7, [2]), (7, [3]), (7, [4])] (by decide)
  obtain ⟨hresults, hserved⟩ := hall calls c' hrun hargs
  exact ⟨calls, c', hrun, hresults, hserved⟩

end

end Rpce
