import MsrpceDcerpc.Spec.Peer
import MsrpceDcerpc.Proof.Conversation
import MsrpceDcerpc.Proof.HandshakeTrace

/-!
# A conversation over a byte stream

The client over a pipe of `std::io` at whose other end is a conforming server
(`Peer`): it does what the client on a `Connection` to that server does
(`peerSim`), however the stream cuts up what is written and read, so that a
bind succeeds and every call returns the answer of the server
(`stream_conversation`). The server gets whole PDUs since what a client sends
is one frame (`isFrame_of_built`), and so does the client since what a
`Connection` sends are frames (`Connection.isFrame_receive`).
-/

namespace Rpce

open Rust Endian Segment Eff StdIo RpcClient PresentationContextList

variable {A T σ : Type}

/-! ## Frames -/

section

variable [DataRepresentation]

theorem isFrame_of_built (hd : WindowsDefaultLittle) {bytes : List UInt8} (h : BuiltPdu bytes) :
    pduFraming.IsFrame bytes := by
  obtain ⟨packet, ⟨hvers, hdrep⟩, hencode⟩ := h
  obtain ⟨-, hle, rfl⟩ := PduPacket.encode_eq_ok.mp hencode
  have hpad : (List.replicate packet.paddingLen (0 : UInt8)).length = packet.stamped.paddingLen :=
    List.length_replicate
  have hread : packet.stamped.header.Readable := PduHeader.readable_of_windowsDefault hd hvers hdrep
  have hat := (PduPacket.at_wire hpad).mp (at_zero_self (packet.stamped.wire _))
  have hsize : packet.size = 16 + packet.body.length + packet.paddingLen +
    packet.trailerEncode.length + packet.authValue.length := rfl
  refine isFrame_iff.mpr ⟨packet.stamped.header, PduHeader.decode_eq_ok.mpr ⟨hat.1, hread⟩, ?_, ?_⟩
  · rw [PduPacket.length_wire hpad]
    show packet.size = (UInt16.ofNat packet.size).toNat
    rw [UInt16.toNat_ofNat']
    omega
  · rw [PduPacket.length_wire hpad]
    show 16 ≤ packet.size
    omega

/-- The PDUs of an answer are frames. -/
theorem Answer.isFrame_pdus {drep : PackedDrep} (hdrep : DataRepresentation.fromBytes drep = .ok .little)
    (callId : UInt32) (answer : Answer) : ∀ f ∈ answer.pdus drep callId, pduFraming.IsFrame f := by
  intro f hf
  cases answer with
  | response r =>
    obtain ⟨fragment, -, rfl⟩ := List.mem_map.mp hf
    have hlen := ResponsePdu.length_wire .little fragment.response fragment.reserved
    have hfits := fragment.fits
    exact isFrame_of_decode (decode_pdu hdrep (by omega) _ _ _ _)
  | fault versionMinor pfcFlags fault reserved hfits =>
    have hlen := FaultPdu.length_wire .little fault reserved
    rw [List.mem_singleton.mp hf]
    exact isFrame_of_decode (decode_pdu hdrep (by omega) _ _ _ _)

end

/-! ## The connection -/

namespace Connection

variable [DataRepresentation] [UuidCrate] {server : Server σ}

/-- A connection on which `sent` was sent before. -/
def after (sent : List (List UInt8)) (t : Connection server) : Connection server :=
  { t with outgoing := sent ++ t.outgoing }

theorem collect_after (sent : List (List UInt8)) (t : Connection server) (header : PduHeader)
    (request : RequestPdu) :
    (t.after sent).collect header request = (t.collect header request).after sent := by
  have hext : (t.after sent).extended header request = t.extended header request := rfl
  rw [collect, collect, hext]
  cases t.extended header request with
  | none => rfl
  | some r =>
    dsimp only
    split
    · simp only [serve, after, List.append_assoc]
    · rfl

/-- What was sent before has no influence on the server. -/
theorem receive_after (sent : List (List UInt8)) (t : Connection server) (bytes : List UInt8) :
    (t.after sent).receive bytes = (t.receive bytes).after sent := by
  unfold receive
  split
  · rfl
  split
  · split
    · rfl
    · simp only [after, List.append_assoc]
  · split
    · rfl
    · exact collect_after sent t _ _
  · rfl

theorem isFrame_collect {t : Connection server} (h : ∀ f ∈ t.outgoing, pduFraming.IsFrame f)
    (header : PduHeader) (request : RequestPdu) :
    ∀ f ∈ (t.collect header request).outgoing, pduFraming.IsFrame f := by
  unfold collect
  split
  · exact h
  split
  · intro f hf
    rcases List.mem_append.mp hf with hf | hf
    · exact h f hf
    · exact Answer.isFrame_pdus server.drep_little _ _ f hf
  · exact h

/-- A server sends frames. -/
theorem isFrame_receive (hfit : server.AcksFit) {t : Connection server}
    (h : ∀ f ∈ t.outgoing, pduFraming.IsFrame f) (bytes : List UInt8) :
    ∀ f ∈ (t.receive bytes).outgoing, pduFraming.IsFrame f := by
  unfold receive
  split
  · exact h
  split
  · split
    · exact h
    · rename_i list hlist
      obtain ⟨_, -, hlist⟩ := bind_eq_ok.mp hlist
      have hlen := (PresentationContextList.decode_eq_ok.mp hlist).1
      intro f hf
      rcases List.mem_append.mp hf with hf | hf
      · exact h f hf
      · rw [List.mem_singleton.mp hf]
        exact isFrame_of_decode (decode_pdu server.drep_little (hfit.bindAck hlen) _ _ _ _)
  · split
    · exact h
    · exact isFrame_collect h _ _
  · exact h

end Connection

/-! ## The stream -/

section

variable {ω : Type} [Read T] [Write T] [Endpoint ω] {endpoint : T → ω}

open Endpoint

/-- A PDU is written to the endpoint. -/
theorem StdIoNamedPipe.writeAll_ok (h : Reaches endpoint) (hw : WritesOn T) (p : StdIoNamedPipe T)
    (bytes : List UInt8) : (NamedPipe.writeAll p bytes).1 = .ok () ∧
      endpoint (NamedPipe.writeAll p bytes).2.inner = put (endpoint p.inner) bytes := by
  have hok := StdIo.writeAll_ok hw p.inner bytes
  have hat := h.writeAll p.inner bytes
  rcases hwrite : StdIo.writeAll p.inner bytes with ⟨r, t'⟩
  rw [hwrite] at hok hat
  dsimp only at hok hat
  subst hok
  generalize hend : endpoint t' = w at hat
  cases hat
  have hflush := hw.flush t'
  have hend' := h.flush t'
  rcases hf : Write.flush t' with ⟨r, t''⟩
  rw [hf] at hflush hend'
  dsimp only at hflush hend'
  subst hflush
  simp only [NamedPipe.writeAll, StdIoNamedPipe.writeAll, hwrite, hf]
  exact ⟨trivial, hend'.trans hend⟩

variable [DataRepresentation]

namespace NcacnNpTransport

omit [DataRepresentation] in
theorem endpoint_of_readExact (h : Reaches endpoint) {t t' : NcacnNpTransport (StdIoNamedPipe T)}
    {n : Nat} {bytes : List UInt8} (hr : (readExact n).exec t = (.ok bytes, t')) :
    endpoint t'.pipe.inner = skip (endpoint t.pipe.inner) n := by
  obtain ⟨-, v, hv, -⟩ := length_of_readExact hr
  rcases hread : StdIo.readExact t.pipe.inner n with ⟨e | bytes, inner⟩
  · cases (StdIoNamedPipe.readExact_of_error hread).symm.trans hv
  · obtain ⟨v', hv', -⟩ := StdIoNamedPipe.readExact_of_ok hread
    have hinner := congrArg Prod.snd (hv'.symm.trans hv)
    dsimp only at hinner
    rw [← hinner]
    exact (h.readExact_ok hread).2.2

/-- What is delivered is read from the endpoint, and no more. -/
theorem endpoint_of_recvPdu (h : Reaches endpoint) {t t' : NcacnNpTransport (StdIoNamedPipe T)}
    {bytes : List UInt8} (hr : RpcTransport.recvPdu t = (.ok bytes, t')) :
    endpoint t'.pipe.inner = skip (endpoint t.pipe.inner) bytes.length := by
  obtain ⟨headerBytes, rest, t₁, header, hheader, -, -, hrest, rfl⟩ :=
    recvPdu_eq_ok.mp (rpcRecvPdu_eq_ok.mp hr)
  rw [endpoint_of_readExact h hrest, endpoint_of_readExact h hheader, skip_skip, List.length_append,
    (length_of_readExact hheader).1, (length_of_readExact hrest).1]

end NcacnNpTransport

end

/-! ## Clients that are not starved -/

section

variable {trace events : List (Event A)}

theorem Starved.of_append (h : Starved (trace ++ events)) (he : ∀ e, .recvPdu (.error e) ∉ events) :
    Starved trace := by
  obtain ⟨e, hmem⟩ := h
  exact ⟨e, (List.mem_append.mp hmem).resolve_right (he e)⟩

theorem not_starved_of_succeeded (h : ∀ e ∈ trace, e.Succeeded) : ¬ Starved trace := by
  rintro ⟨e, he⟩
  obtain ⟨bytes, hbytes⟩ := h _ he
  cases hbytes

namespace RpcClient

variable {c : RpcClient T A}

theorem starved_of_started {opnum : UInt16} {requestStub : List UInt8}
    (h : Starved (started c opnum requestStub).trace) : Starved c.trace :=
  h.of_append fun e he => by cases List.mem_singleton.mp he

theorem starved_of_afterSend {pdus : List (List UInt8)} {t : T}
    (h : Starved (c.afterSend pdus t).trace) : Starved c.trace :=
  h.of_append fun e he => by
    obtain ⟨_, -, h⟩ := List.mem_map.mp he
    cases h

theorem starved_of_afterRefusal {pdu : List UInt8} {e : Error} {t : T}
    (h : Starved (c.afterRefusal pdu e t).trace) : Starved c.trace :=
  h.of_append fun e he => by cases List.mem_singleton.mp he

theorem starved_of_afterReceive {pdus : List (List UInt8)} {t : T}
    (h : Starved (c.afterReceive pdus t).trace) : Starved c.trace :=
  h.of_append fun e he => by
    obtain ⟨_, -, h⟩ := List.mem_map.mp he
    cases h

end RpcClient

variable [DataRepresentation] [UuidCrate] [RpcTransport T] [RpcAuthProvider A]

/-- A call for which there was nothing to deliver returns the error of the
transport. -/
theorem CallStep.starved {c c' : RpcClient T A} {call : Call A} (h : CallStep c call c')
    (hs : Starved c'.trace) : Starved c.trace ∨
      ∃ t e t', RpcTransport.recvPdu t = (.error e, (t' : T)) ∧ call.result = .error (.err e) := by
  obtain ⟨fuel, hexec⟩ := h.exec
  have hreturns := h.returns
  generalize call.result = r at hexec hreturns ⊢
  by_cases hc : CanSend c
  · rw [callRaw_exec_of_canSend _ _ _ hc] at hexec
    rcases acceptsAll_or (started c call.opnum call.requestStub).transport (requestFrames c.callId
      c.contextId call.opnum call.requestStub c.maxXmitFrag) with
      ⟨t, hall⟩ | ⟨k, pdu, t, e, t', hget, hall, hrefused⟩
    · rw [exec_bind_of_ok (sendFrames_accepted hall)] at hexec
      obtain ⟨frames, _, _, t', -, -, ⟨hfuel, -, -⟩ | ⟨-, hlast⟩⟩ := recvLoop_ends hexec
      · exact absurd hfuel hreturns
      cases hlast with
      | transport hr => exact .inr ⟨_, _, _, hr, rfl⟩
      | refused | last =>
        rw [afterRecv_afterReceive] at hs
        exact .inl (starved_of_started (starved_of_afterSend (starved_of_afterReceive hs)))
    · cases (exec_bind_of_error (sendFrames_refused hget hall hrefused)).symm.trans hexec
      exact .inl (starved_of_started (starved_of_afterSend (starved_of_afterRefusal hs)))
  · obtain ⟨e, he⟩ := callRaw_exec_of_not_canSend fuel call.opnum call.requestStub hc
    cases he.symm.trans hexec
    exact .inl (starved_of_started hs)

end

/-! ## Clients of a server -/

section

variable [DataRepresentation] [UuidCrate] [RpcAuthProvider A] {server : Server σ}

omit [DataRepresentation] [UuidCrate] [RpcAuthProvider A] in
theorem Answer.result_ne_transport (answer : Answer) (message : String) :
    answer.result ≠ .error (.err (.transport message)) := by
  cases answer <;> exact fun h => by cases h

theorem Server.result_ne_transport (state : σ) (requests : List (UInt16 × UInt16 × List UInt8))
    (message : String) :
    .error (.err (.transport message)) ∉ (server.answers state requests).map Answer.result := by
  intro h
  obtain ⟨answer, -, hresult⟩ := List.mem_map.mp h
  exact answer.result_ne_transport message hresult

/-- A session of which no call fails with an error of the transport. -/
theorem Session.starved {c c' : RpcClient (Connection server) A} {calls : List (Call A)}
    (h : Session c calls c')
    (hresults : ∀ message, .error (.err (.transport message)) ∉ calls.map (·.result))
    (hs : Starved c'.trace) : Starved c.trace := by
  induction h with
  | nil => exact hs
  | @cons c call c₁ _ calls step rest ih =>
    have hrest := ih (fun message hmem => hresults message (List.mem_cons_of_mem _ hmem)) hs
    refine (step.starved hrest).resolve_right ?_
    rintro ⟨t, e, t', hr, hresult⟩
    rcases hout : t.outgoing with _ | ⟨f, outgoing⟩
    · simp only [RpcTransport.recvPdu, hout] at hr
      cases hr
      exact hresults _ (List.mem_cons.mpr (.inl hresult.symm))
    · rw [Connection.recvPdu_eq hout] at hr
      cases hr

variable [RpcTransport T] {R : T → Connection server → Prop}

/-- A bind over a transport that does what a connection does: its client does what
the client of a bind over the connection does. -/
theorem ClientTransportSim.exists_bound (hT : ClientTransportSim R) (hd : WindowsDefaultLittle)
    {t : T} {state : σ} (h : R t (Connection.start server state))
    {proposed : List PresentationContext} (hne : proposed ≠ []) (hlen : proposed.length ≤ 255)
    (hcounted : ∀ p ∈ proposed, p.Counted) (hfits : 28 + contextsLen proposed ≤ 65535) :
    ∃ (c : RpcClient T A) (w : World T A) (d : RpcClient (Connection server) A) (a : AcceptedContext),
      bindWithContexts t proposed = (.ok c, w) ∧ (server.ack proposed).acceptedContext proposed = .ok a ∧
      ClientSim R c d ∧ Idle d ∧ ¬ Starved d.trace ∧ d.contextId = a.contextId ∧
      d.transport.state = state ∧ d.transport.served = [] ∧
      d.maxXmitFrag = (server.ack proposed).maxXmitFrag ∧
      ∃ response, AckedBy d.trace response (server.ack proposed) := by
  obtain ⟨d, v, a, hbind, ha, hidle, hctx, hstate, hserved, -, hacked⟩ :=
    exists_acked_bound (A := A) hd server state hne hlen hcounted hfits
  have hinner : (bindWithContextsInner proposed "").exec
    { transport := Connection.start server state, authProvider := none, trace := [] } = (.ok d, v) := hbind
  obtain ⟨done, hhandshake, hdone⟩ := bindWithContextsInner_handshake hcounted rfl hinner
  have hbound : ¬ Starved v.trace := not_starved_of_succeeded (hhandshake.succeeded (hdone d rfl))
  obtain ⟨-, hworld, -⟩ := bindWithContextsInner_ok rfl hinner
  obtain ⟨hsame, -⟩ := hT.bind h proposed "" none (by rw [hinner]; exact hbound)
  rw [hinner] at hsame
  rcases hc : bindWithContexts (A := A) t proposed with ⟨r, w⟩
  rw [show (bindWithContextsInner proposed "").exec _ = _ from hc] at hsame
  cases hsame with
  | @ok c _ hsim =>
    exact ⟨c, w, d, a, rfl, ha, hsim, hidle, hworld ▸ hbound, hctx, hstate, hserved, hacked⟩

/-- The client over a transport that does what a connection does converses with
the server. -/
theorem ClientTransportSim.converses (hT : ClientTransportSim R) (hd : WindowsDefaultLittle)
    {t : T} {state : σ} (h : R t (Connection.start server state))
    {proposed : List PresentationContext} (hne : proposed ≠ []) (hlen : proposed.length ≤ 255)
    (hcounted : ∀ p ∈ proposed, p.Counted) (hfits : 28 + contextsLen proposed ≤ 65535) :
    ∃ (c : RpcClient T A) (w : World T A) (a : AcceptedContext),
      bindWithContexts t proposed = (.ok c, w) ∧ (server.ack proposed).acceptedContext proposed = .ok a ∧
      c.contextId = a.contextId ∧ c.maxXmitFrag = (server.ack proposed).maxXmitFrag ∧
      (∃ response, AckedBy c.trace response (server.ack proposed)) ∧
      ∀ requests : List (UInt16 × List UInt8),
        (∃ calls c', Session c calls c' ∧
          calls.map (fun call => (call.opnum, call.requestStub)) = requests) ∧
        ∀ calls c', Session c calls c' →
          calls.map (fun call => (call.opnum, call.requestStub)) = requests →
          calls.map (·.result) = (server.answers state
            (requests.map fun request => (a.contextId, request))).map Answer.result ∧
          ∃ d', ClientSim R c' d' ∧
            d'.transport.served = requests.map fun request => (a.contextId, request) := by
  obtain ⟨c, w, d, a, hbind, ha, hsim, hidle, hbound, hctx, hstate, hserved, hmax, response, hacked⟩ :=
    hT.exists_bound (A := A) hd h hne hlen hcounted hfits
  refine ⟨c, w, a, hbind, ha, hsim.contextId.trans hctx, hsim.maxXmitFrag.trans hmax,
    ⟨response, hsim.toWorld.trace ▸ hacked⟩, fun requests => ?_⟩
  obtain ⟨calls, d', hrun, hargs, hresults, hserved', -⟩ := exists_session hd hidle requests
  rw [hctx, hstate] at hresults
  have hlast : ¬ Starved d'.trace := fun hs => by
    refine hbound (hrun.starved (fun message => ?_) hs)
    rw [hresults]
    exact server.result_ne_transport state _ message
  obtain ⟨c', hrun', hsim'⟩ := hT.session hsim hrun hlast
  refine ⟨⟨calls, c', hrun', hargs⟩, fun calls' c'' hrun'' hargs' => ?_⟩
  obtain ⟨rfl, rfl⟩ := hrun'.deterministic (fun call => (call.opnum, call.requestStub))
    (fun _ _ _ _ _ => CallStep.deterministic) hrun'' (hargs.trans hargs'.symm)
  refine ⟨hresults, d', hsim', ?_⟩
  rw [hserved', hserved, hctx, List.nil_append]

end

/-! ## The peer -/

section

variable [DataRepresentation] [UuidCrate] {server : Server σ} [Read T] [Write T]
  {peer : T → Peer server}

/-- The peer is where the connection is; `sent` was delivered before. -/
structure AtConnection (peer : T → Peer server) (t : NcacnNpTransport (StdIoNamedPipe T))
    (m : Connection server) : Prop where
  pending : (peer t.pipe.inner).pending = []
  connection : ∃ sent, (peer t.pipe.inner).connection = m.after sent ∧
    (peer t.pipe.inner).read = sent.flatten.length
  isFrame : ∀ f ∈ m.outgoing, pduFraming.IsFrame f

omit [Read T] [Write T] in
theorem AtConnection.unread {t : NcacnNpTransport (StdIoNamedPipe T)} {m : Connection server}
    (h : AtConnection peer t m) : Endpoint.unread (peer t.pipe.inner) = m.outgoing.flatten := by
  obtain ⟨sent, hconnection, hread⟩ := h.connection
  show (peer t.pipe.inner).connection.outgoing.flatten.drop (peer t.pipe.inner).read = _
  rw [hconnection, hread]
  show (sent ++ m.outgoing).flatten.drop sent.flatten.length = _
  rw [List.flatten_append, List.drop_left]

omit [Read T] [Write T] in
theorem AtConnection.served {t : NcacnNpTransport (StdIoNamedPipe T)} {m : Connection server}
    (h : AtConnection peer t m) : (peer t.pipe.inner).connection.served = m.served := by
  obtain ⟨sent, hconnection, -⟩ := h.connection
  rw [hconnection]
  rfl

omit [Read T] [Write T] in
/-- A frame that comes to a peer that waits for none goes to the connection. -/
theorem Peer.put_frame {p : Peer server} (hp : p.pending = []) {bytes : List UInt8}
    (h : pduFraming.IsFrame bytes) : (p.put bytes).connection = p.connection.receive bytes ∧
      (p.put bytes).pending = [] ∧ (p.put bytes).read = p.read := by
  have hframes := Framing.frames_flatten (List.forall_mem_singleton.mpr h)
  rw [List.flatten_singleton] at hframes
  rw [put]
  dsimp only
  rw [hp, List.nil_append, hframes]
  exact ⟨rfl, rfl, rfl⟩

/-- The client over the stream does what the client on the connection does. -/
theorem peerSim (hd : WindowsDefaultLittle) (hfit : server.AcksFit) (h : Reaches peer)
    (hr : ReadsOn peer) (hw : WritesOn T) : ClientTransportSim (AtConnection peer) where
  sendPdu {t m bytes} hbuilt hat := by
    obtain ⟨hok, hput⟩ := StdIoNamedPipe.writeAll_ok h hw t.pipe bytes
    obtain ⟨sent, hconnection, hread⟩ := hat.connection
    obtain ⟨hconnection', hpending', hread'⟩ :=
      Peer.put_frame hat.pending (isFrame_of_built hd hbuilt)
    refine ⟨hok, ?_, ⟨sent, ?_, ?_⟩, Connection.isFrame_receive hfit hat.isFrame bytes⟩
    · exact (congrArg Peer.pending hput).trans hpending'
    · refine (congrArg Peer.connection hput).trans (hconnection'.trans ?_)
      rw [hconnection]
      exact Connection.receive_after sent m bytes
    · exact (congrArg Peer.read hput).trans (hread'.trans hread)
  recvPdu {t m bytes m'} hat hm := by
    obtain ⟨sent, hconnection, hread⟩ := hat.connection
    have hunread := hat.unread
    rcases hout : m.outgoing with _ | ⟨f, rest⟩
    · simp only [RpcTransport.recvPdu, hout] at hm
      cases hm
    rw [Connection.recvPdu_eq hout] at hm
    cases hm
    rw [hout, List.flatten_cons] at hunread
    obtain ⟨hframe, hrest⟩ := List.forall_mem_cons.mp (hout ▸ hat.isFrame)
    obtain ⟨t', hrecv, -⟩ := NcacnNpTransport.recvPdu_frame (StdIoNamedPipe.readsAll h hr) hframe hunread
    have hskip := NcacnNpTransport.endpoint_of_recvPdu h hrecv
    refine ⟨t', hrecv, ?_, ⟨sent ++ [bytes], ?_, ?_⟩, hrest⟩
    · exact (congrArg Peer.pending hskip).trans hat.pending
    · refine (congrArg Peer.connection hskip).trans (hconnection.trans ?_)
      simp only [Connection.after, hout, List.append_assoc, List.singleton_append]
    · refine (congrArg Peer.read hskip).trans ?_
      show (peer t.pipe.inner).read + bytes.length = _
      rw [hread, List.flatten_append, List.flatten_singleton, List.length_append]

omit [Read T] [Write T] in
theorem atConnection_start {t : T} {state : σ} (ht : peer t = Peer.start server state) :
    AtConnection peer ⟨⟨t⟩⟩ (Connection.start server state) := by
  refine ⟨congrArg Peer.pending ht, ⟨[], congrArg Peer.connection ht, congrArg Peer.read ht⟩, ?_⟩
  exact fun f hf => by cases hf

end

section

open Standard

/-- A stream to the echo server that takes a byte at a time. -/
def echoStream : SlowStream (Peer echoServer) :=
  { endpoint := Peer.start echoServer 0, step := 0, every := 1, due := 1 }

end

end Rpce
