import MsrpceDcerpc.Proof.Answers
import MsrpceDcerpc.Proof.HandshakeTrace
import MsrpceDcerpc.Spec.Acceptor

/-!
# A conversation with a server that authenticates

A bind with a provider is an exchange of tokens between the provider and the
acceptor of the server (`Exchange.exists_bound`). Which of the tokens are sent
makes no difference to the client: after an exchange without a challenge it is
bound as after one in which the provider made a step, and it is the server that
admits it to its calls or does not (`exists_session_admitted`,
`exists_session_not_admitted`). `authenticated_conversation` is both together.
-/

namespace Rpce

open Rust Endian Segment Eff RpcClient Chunk PresentationContextList

variable {A σ α : Type}

section

variable [DataRepresentation]

/-! ## PDUs with a security trailer -/

/-- The packet of a PDU with a security trailer. -/
def authPduPacket (drep : PackedDrep) (versionMinor : UInt8) (ptype : PduType) (pfcFlags : UInt8)
    (callId : UInt32) (body padding : List UInt8) (trailer : SecurityTrailer)
    (authValue : List UInt8) : PduPacket :=
  PduPacket.withSecurityTrailer
    { rpcVers := RPC_VERSION, rpcVersMinor := versionMinor, ptype, pfcFlags, packedDrep := drep,
      fragLength := UInt16.ofNat (24 + body.length + padding.length + authValue.length),
      authLength := UInt16.ofNat authValue.length, callId } body trailer authValue

theorem decode_authPdu {drep : PackedDrep} {o : ByteOrder}
    (hdrep : DataRepresentation.fromBytes drep = .ok o) {body padding authValue : List UInt8}
    {trailer : SecurityTrailer} (hpadding : padding.length = trailer.authPadLength.toNat)
    (hauth : authValue ≠ []) (hfits : 24 + body.length + padding.length + authValue.length ≤ 65535)
    (versionMinor : UInt8) (ptype : PduType) (pfcFlags : UInt8) (callId : UInt32) :
    PduPacket.decode (Wire.authPdu o drep versionMinor ptype pfcFlags callId body padding trailer
      authValue) =
      .ok (authPduPacket drep versionMinor ptype pfcFlags callId body padding trailer authValue) := by
  have horder : (authPduPacket drep versionMinor ptype pfcFlags callId body padding trailer
    authValue).header.byteOrder = o := PduHeader.byteOrder_of_fromBytes hdrep
  refine PduPacket.decode_eq_ok.mpr ⟨⟨⟨rfl, horder ▸ hdrep⟩, iff_of_false (Option.some_ne_none _) hauth,
    ?_, ?_⟩, padding, hpadding, ?_⟩
  · have hlen : trailer.encode.length = 8 := SecurityTrailer.length_encode trailer
    show (UInt16.ofNat _).toNat = 16 + body.length + trailer.authPadLength.toNat +
      trailer.encode.length + authValue.length
    rw [UInt16.toNat_ofNat', hlen, ← hpadding]
    omega
  · show (UInt16.ofNat authValue.length).toNat = authValue.length
    rw [UInt16.toNat_ofNat']
    omega
  · rw [PduPacket.wire, PduHeader.encode, horder]
    rfl

/-- The packet of an AUTH3: its body needs no padding. -/
def auth3Packet [RpcAuthProvider A] (provider : A) (token : List UInt8) : PduPacket :=
  PduPacket.withSecurityTrailer (PduHeader.new .auth3 authPfcFlags 1) [0x20, 0x20, 0x20, 0x20]
    (securityTrailer provider 0) token

theorem authenticatedPacket_auth3 [RpcAuthProvider A] {a : A}
    (hlevel : (RpcAuthProvider.authLevel a).Supported) (token : List UInt8) :
    authenticatedPacket .auth3 1 authPfcFlags [0x20, 0x20, 0x20, 0x20] a token =
      .ok (auth3Packet a token) := by
  have hok : ¬ (RpcAuthProvider.authLevel a = .packetIntegrity ∨
      RpcAuthProvider.authLevel a = .packetPrivacy) := by
    rcases hlevel with h | h <;> rw [h] <;> decide
  rw [authenticatedPacket, failIf_of_not _ hok, bind_ok]
  rfl

theorem encode_auth3Packet [RpcAuthProvider A] (hd : WindowsDefaultLittle) (a : A) {token : List UInt8}
    (htoken : token ≠ []) (hfits : 28 + token.length ≤ 65535) :
    ∃ bytes, (auth3Packet a token).encode = .ok bytes ∧
      PduPacket.decode bytes = .ok (auth3Packet a token).stamped := by
  have hshaped : (auth3Packet a token).Shaped := iff_of_false (Option.some_ne_none _) htoken
  have hsize : (auth3Packet a token).size = 28 + token.length := by
    show 16 + 4 + 0 + (securityTrailer a 0).encode.length + token.length = _
    rw [SecurityTrailer.length_encode]
  have hencode := PduPacket.encode_of_size hshaped (hsize.trans_le hfits)
  exact ⟨_, hencode, PduPacket.decode_of_encode (PduHeader.readable_of_windowsDefault hd rfl rfl) hshaped
    hencode⟩

end

section

variable [DataRepresentation] [UuidCrate] {server : Server σ} {acceptor : Acceptor α}

/-! ## The connection -/

namespace AuthConnection

/-- A connection takes every PDU. -/
theorem acceptsAll (t : AuthConnection server acceptor) (frames : List (List UInt8)) :
    AcceptsAll t frames (frames.foldl receive t) := acceptsAll_foldl (fun _ _ => rfl) t frames

theorem receive_bind (t : AuthConnection server acceptor) {bytes : List UInt8} {packet : PduPacket}
    {list : PresentationContextList} (hpacket : PduPacket.decode bytes = .ok packet)
    (htype : packet.header.ptype = .bind)
    (hbody : (BindPdu.decode packet.body >>= BindPdu.contextList) = .ok list) {challenge : List UInt8}
    {context : α} (hchallenge : acceptor.challenge t.context packet.authValue = (challenge, context)) :
    t.receive bytes = { connection := { t.connection with outgoing := t.connection.outgoing ++
      [ack server acceptor packet.header.callId list.contexts challenge] }, context } := by
  simp only [receive, hpacket, htype, hbody, hchallenge]

theorem receive_auth3 (t : AuthConnection server acceptor) {bytes : List UInt8} {packet : PduPacket}
    (hpacket : PduPacket.decode bytes = .ok packet) (htype : packet.header.ptype = .auth3) :
    t.receive bytes = { t with context := acceptor.finish t.context packet.authValue } := by
  simp only [receive, hpacket, htype]

/-- The server reads requests if the client is admitted. -/
theorem receive_request (t : AuthConnection server acceptor) {bytes : List UInt8} {packet : PduPacket}
    (hpacket : PduPacket.decode bytes = .ok packet) (htype : packet.header.ptype = .request) :
    t.receive bytes =
      if acceptor.admits t.context then { t with connection := t.connection.receive bytes } else t := by
  simp only [receive, hpacket, htype]

theorem foldl_receive_admitted {t : AuthConnection server acceptor} {frames : List (List UInt8)}
    (hadmits : acceptor.admits t.context = true)
    (hrequests : ∀ frame ∈ frames, ∃ packet, PduPacket.decode frame = .ok packet ∧
      packet.header.ptype = .request) :
    frames.foldl receive t = { t with connection := frames.foldl Connection.receive t.connection } := by
  induction frames generalizing t with
  | nil => rfl
  | cons frame frames ih =>
    obtain ⟨⟨packet, hpacket, htype⟩, hrest⟩ := List.forall_mem_cons.mp hrequests
    rw [List.foldl_cons, receive_request t hpacket htype, if_pos hadmits]
    exact ih hadmits hrest

theorem foldl_receive_not_admitted {t : AuthConnection server acceptor} {frames : List (List UInt8)}
    (hadmits : ¬ acceptor.admits t.context = true)
    (hrequests : ∀ frame ∈ frames, ∃ packet, PduPacket.decode frame = .ok packet ∧
      packet.header.ptype = .request) :
    frames.foldl receive t = t := by
  induction frames with
  | nil => rfl
  | cons frame frames ih =>
    obtain ⟨⟨packet, hpacket, htype⟩, hrest⟩ := List.forall_mem_cons.mp hrequests
    rw [List.foldl_cons, receive_request t hpacket htype, if_neg hadmits]
    exact ih hrest

theorem recvPdu_eq (t : AuthConnection server acceptor) : RpcTransport.recvPdu t =
    ((RpcTransport.recvPdu t.connection).1,
      { t with connection := (RpcTransport.recvPdu t.connection).2 }) := rfl

theorem delivers {t : AuthConnection server acceptor} {frames : List (List UInt8)}
    {connection : Connection server} (h : Delivers t.connection frames connection) :
    Delivers t frames { t with connection } := by
  induction frames generalizing t with
  | nil =>
    cases h
    exact .nil _
  | cons frame frames ih =>
    cases h with
    | @cons _ connection₁ _ _ _ hrecv hrest =>
      refine .cons ?_ (ih (t := { t with connection := connection₁ }) hrest)
      rw [recvPdu_eq, hrecv]

end AuthConnection

/-! ## One call -/

variable [RpcAuthProvider A]

/-- A client between two calls. -/
structure AtRest (c : RpcClient (AuthConnection server acceptor) A) : Prop where
  supported : LevelSupported c.authProvider
  room : 24 < c.maxXmitFrag.toNat
  outgoing : c.transport.connection.outgoing = []

theorem AtRest.of_callStep {c c' : RpcClient (AuthConnection server acceptor) A} {call : Call A}
    (h : AtRest c) (hstep : CallStep c call c') (hout : c'.transport.connection.outgoing = []) :
    AtRest c' ∧ c'.contextId = c.contextId := by
  have hext := hstep.spec.extends_started
  refine ⟨⟨?_, ?_, hout⟩, hext.contextId⟩
  · rw [hext.authProvider]
    exact h.supported
  · rw [hext.maxXmitFrag]
    exact h.room

/-- A call of a client that is admitted returns the answer of the server. -/
theorem exists_admitted (hd : WindowsDefaultLittle) {c : RpcClient (AuthConnection server acceptor) A}
    (h : AtRest c) (hadmits : acceptor.admits c.transport.context = true) (opnum : UInt16)
    (stub : List UInt8) :
    let (answer, state) := server.reply c.transport.connection.state c.contextId opnum stub
    ∃ call c', CallStep c call c' ∧ (call.opnum, call.requestStub) = (opnum, stub) ∧
      call.result = answer.result ∧ AtRest c' ∧ c'.contextId = c.contextId ∧
      c'.transport.context = c.transport.context ∧ c'.transport.connection.state = state ∧
      c'.transport.connection.served =
        c.transport.connection.served ++ [(c.contextId, opnum, stub)] := by
  have haccepts := AuthConnection.acceptsAll c.transport
    (requestFrames c.callId c.contextId opnum stub c.maxXmitFrag)
  rw [AuthConnection.foldl_receive_admitted hadmits fun frame => decode_of_mem_requestFrames hd h.room,
    Connection.receive_requestFrames hd _ c.callId c.contextId opnum stub h.room] at haccepts
  have hout : (c.transport.connection.serve { callId := c.callId, ctxId := c.contextId, opnum, stub }).outgoing =
      (server.reply c.transport.connection.state c.contextId opnum stub).1.pdus server.drep c.callId ++
        [] := by
    rw [Connection.serve, h.outgoing, List.append_nil]
    rfl
  obtain ⟨call, c', hstep, hargs, hresult, ht⟩ := CallStep.of_answer h.room h.supported haccepts
    server.drep_little (AuthConnection.delivers (Connection.delivers [] hout))
  obtain ⟨hrest, hctx⟩ := h.of_callStep hstep (by rw [ht])
  exact ⟨call, c', hstep, hargs, hresult, hrest, hctx, by rw [ht], by rw [ht]; rfl, by rw [ht]; rfl⟩

/-- A call of another client fails, and the server does not see it. -/
theorem exists_not_admitted (hd : WindowsDefaultLittle)
    {c : RpcClient (AuthConnection server acceptor) A} (h : AtRest c)
    (hadmits : ¬ acceptor.admits c.transport.context = true) (opnum : UInt16) (stub : List UInt8) :
    ∃ call c', CallStep c call c' ∧ (call.opnum, call.requestStub) = (opnum, stub) ∧
      call.result = .error (.err (.transport "nothing was sent")) ∧ AtRest c' ∧
      c'.transport = c.transport := by
  have haccepts := AuthConnection.acceptsAll c.transport
    (requestFrames c.callId c.contextId opnum stub c.maxXmitFrag)
  rw [AuthConnection.foldl_receive_not_admitted hadmits fun frame => decode_of_mem_requestFrames hd h.room]
    at haccepts
  have hrecv : RpcTransport.recvPdu c.transport = (.error (.transport "nothing was sent"), c.transport) := by
    rw [AuthConnection.recvPdu_eq]
    simp only [RpcTransport.recvPdu, h.outgoing]
  have hround : LastRound c.callId [] false ((requested c opnum stub c.transport).afterReceive []
      c.transport) (.error (.err (.transport "nothing was sent"))) _ := .transport hrecv
  obtain ⟨call, hstep, hargs, hresult⟩ := CallStep.of_lastRound h.room h.supported haccepts (.nil false)
    (.nil _) hround (fun h => by cases h)
  exact ⟨call, _, hstep, hargs, hresult, (h.of_callStep hstep h.outgoing).1, rfl⟩

/-! ## The calls -/

/-- The calls of a client that is admitted: each returns the answer of the
server. -/
theorem exists_session_admitted (hd : WindowsDefaultLittle)
    {c : RpcClient (AuthConnection server acceptor) A} (h : AtRest c)
    (hadmits : acceptor.admits c.transport.context = true) (requests : List (UInt16 × List UInt8)) :
    ∃ calls c', Session c calls c' ∧
      calls.map (fun call => (call.opnum, call.requestStub)) = requests ∧
      calls.map (·.result) = (server.answers c.transport.connection.state
        (requests.map fun request => (c.contextId, request))).map Answer.result ∧
      c'.transport.connection.served = c.transport.connection.served ++
        requests.map fun request => (c.contextId, request) := by
  induction requests generalizing c with
  | nil => exact ⟨[], c, .nil c, rfl, rfl, (List.append_nil _).symm⟩
  | cons request requests ih =>
    obtain ⟨opnum, stub⟩ := request
    obtain ⟨call, c₁, hstep, hargs, hresult, hrest, hctx, hcontext, hstate, hserved⟩ :=
      exists_admitted hd h hadmits opnum stub
    obtain ⟨calls, c', hrun, hargs', hresults, hserved'⟩ := ih hrest (hcontext ▸ hadmits)
    refine ⟨call :: calls, c', .cons hstep hrun, ?_, ?_, ?_⟩
    · rw [List.map_cons, hargs, hargs']
    · rw [List.map_cons, hresult, hresults, hctx, hstate]
      rfl
    · rw [hserved', hserved, hctx, List.append_assoc]
      rfl

/-- The calls of another client: they all fail. -/
theorem exists_session_not_admitted (hd : WindowsDefaultLittle)
    {c : RpcClient (AuthConnection server acceptor) A} (h : AtRest c)
    (hadmits : ¬ acceptor.admits c.transport.context = true) (requests : List (UInt16 × List UInt8)) :
    ∃ calls c', Session c calls c' ∧
      calls.map (fun call => (call.opnum, call.requestStub)) = requests ∧
      (∀ call ∈ calls, call.result = .error (.err (.transport "nothing was sent"))) ∧
      c'.transport = c.transport := by
  induction requests generalizing c with
  | nil => exact ⟨[], c, .nil c, rfl, fun call hc => absurd hc List.not_mem_nil, rfl⟩
  | cons request requests ih =>
    obtain ⟨opnum, stub⟩ := request
    obtain ⟨call, c₁, hstep, hargs, hresult, hrest, ht⟩ := exists_not_admitted hd h hadmits opnum stub
    obtain ⟨calls, c', hrun, hargs', hresults, ht'⟩ := ih hrest (ht ▸ hadmits)
    refine ⟨call :: calls, c', .cons hstep hrun, ?_, List.forall_mem_cons.mpr ⟨hresult, hresults⟩,
      ht'.trans ht⟩
    rw [List.map_cons, hargs, hargs']

/-! ## The bind -/

/-- The ack of the server is read with its challenge. -/
theorem AuthConnection.decode_ack (acceptor : Acceptor α) {proposed : List PresentationContext} {challenge : List UInt8}
    (hplain : 16 + (Wire.bindAck .little (server.ack proposed) (server.filler proposed)).length ≤ 65535)
    (hauth : challenge ≠ [] → 24 + (Wire.bindAck .little (server.ack proposed)
      (server.filler proposed)).length + acceptor.padding.length + challenge.length ≤ 65535) :
    ∃ response, PduPacket.decode (ack server acceptor 1 proposed challenge) = .ok response ∧
      response.header.callId = 1 ∧ response.header.ptype = .bindAck ∧
      response.body = Wire.bindAck .little (server.ack proposed) (server.filler proposed) ∧
      response.authValue = challenge := by
  unfold ack
  dsimp only
  split
  · rename_i hnil
    exact ⟨_, decode_pdu server.drep_little hplain _ _ _ _, rfl, rfl, rfl, hnil.symm⟩
  · rename_i hne
    exact ⟨_, decode_authPdu server.drep_little acceptor.length_padding hne (hauth hne) _ _ _ _, rfl, rfl,
      rfl, rfl⟩

/-- The Bind leaves the server with the token, and the connection with the ack
to it. -/
theorem AuthConnection.receive_authBind (hd : WindowsDefaultLittle) {proposed : List PresentationContext}
    (hlen : proposed.length ≤ 255) (hcounted : ∀ p ∈ proposed, p.Counted) {a : A}
    {token bytes challenge : List UInt8} {context : α} (htoken : token ≠ [])
    (h : (authBind proposed a token).encode = .ok bytes) (t : AuthConnection server acceptor)
    (hchallenge : acceptor.challenge t.context token = (challenge, context)) :
    t.receive bytes = { connection := { t.connection with outgoing := t.connection.outgoing ++
      [ack server acceptor 1 proposed challenge] }, context } := by
  have hbody : (BindPdu.decode (bindBody proposed).encode >>= BindPdu.contextList) =
      .ok { contexts := proposed } := by
    rw [BindPdu.decode_eq_ok.mpr rfl, bind_ok, (contextList_bindBody_iff hcounted).mpr hlen]
  exact (receive_bind t (authBind_decode hd htoken h) rfl hbody hchallenge).trans rfl

namespace Exchange

variable {target : String} {a a' : A} {s s' : α} {token challenge answer : List UInt8}

omit [DataRepresentation] [UuidCrate] in
theorem initContext (h : Exchange acceptor target a s token challenge answer a' s') :
    ∃ a₁, RpcAuthProvider.initContext a target = (.ok token, a₁) ∧
      (RpcAuthProvider.authLevel a₁).Supported := by
  cases h with
  | unchallenged hinit hlevel => exact ⟨_, hinit, hlevel⟩
  | unanswered hinit hlevel => exact ⟨_, hinit, hlevel⟩
  | answered hinit hlevel => exact ⟨_, hinit, hlevel⟩

omit [DataRepresentation] [UuidCrate] in
theorem challenge_eq (h : Exchange acceptor target a s token challenge answer a' s') :
    ∃ s₁, acceptor.challenge s token = (challenge, s₁) := by
  cases h with
  | unchallenged _ _ hchallenge => exact ⟨_, hchallenge⟩
  | unanswered _ _ hchallenge => exact ⟨_, hchallenge⟩
  | answered _ _ hchallenge => exact ⟨_, hchallenge⟩

omit [DataRepresentation] [UuidCrate] in
theorem supported (h : Exchange acceptor target a s token challenge answer a' s') :
    (RpcAuthProvider.authLevel a').Supported := by
  cases h with
  | unchallenged _ hlevel => exact hlevel
  | unanswered _ _ _ _ _ hlevel => exact hlevel
  | answered _ _ _ _ _ _ hlevel => exact hlevel

/-- The client does its part of the exchange after the ack. -/
theorem answerChallenge_exec (hd : WindowsDefaultLittle)
    (h : Exchange acceptor target a s token challenge answer a' s')
    (hfits : 28 + answer.length ≤ 65535) {response : PduPacket} (hresponse : response.authValue = challenge)
    {w : World (AuthConnection server acceptor) A}
    (hprovider : w.authProvider = some (RpcAuthProvider.initContext a target).2)
    (hcontext : w.transport.context = (acceptor.challenge s token).2) :
    ∃ w', (answerChallenge 1 response).exec w = (.ok (), w') ∧ w'.authProvider = some a' ∧
      w'.transport = { w.transport with context := s' } := by
  rw [answerChallenge, exec_bind_of_ok (exec_get w), hprovider]
  dsimp only
  rw [hresponse]
  cases h with
  | unchallenged hinit _ hchallenge =>
    rw [hinit] at hprovider
    obtain rfl : w.transport.context = s' := hcontext.trans (by rw [hchallenge])
    rw [if_pos rfl]
    exact ⟨w, rfl, hprovider, rfl⟩
  | unanswered hinit _ hchallenge hne hstep =>
    obtain rfl : w.transport.context = s' := hcontext.trans (by rw [hchallenge])
    rw [if_neg hne, hinit, exec_bind_of_ok (exec_stepProvider hstep w), if_pos rfl]
    exact ⟨_, rfl, rfl, rfl⟩
  | answered hinit _ hchallenge hne hstep hanswer hlevel =>
    obtain ⟨bytes, hencode, hdecode⟩ := encode_auth3Packet hd a' hanswer hfits
    rw [hchallenge] at hcontext
    rw [if_neg hne, hinit, exec_bind_of_ok (exec_stepProvider hstep w), if_neg hanswer,
      exec_bind_of_ok (exec_get _)]
    show ∃ w', ((liftM (authenticatedPacket .auth3 1 authPfcFlags [0x20, 0x20, 0x20, 0x20] a' answer) :
      Eff (Stop Error) (World (AuthConnection server acceptor) A) PduPacket) >>= _).exec _ = _ ∧ _
    rw [exec_lift_bind_of_ok (authenticatedPacket_auth3 hlevel answer), exec_lift_bind_of_ok hencode,
      exec_sendPdu (show RpcTransport.sendPdu _ bytes = (.ok (), _) from rfl)]
    refine ⟨_, rfl, rfl, ?_⟩
    show w.transport.receive bytes = _
    rw [AuthConnection.receive_auth3 w.transport hdecode rfl, hcontext]
    rfl

/-- A bind with a provider is the exchange of its tokens. -/
theorem exists_bound (hd : WindowsDefaultLittle) (server : Server σ) (state : σ)
    (h : Exchange acceptor target a s token challenge answer a' s')
    {proposed : List PresentationContext} (hne : proposed ≠ []) (hlen : proposed.length ≤ 255)
    (hcounted : ∀ p ∈ proposed, p.Counted) (htoken : token ≠ [])
    (hbind : 36 + contextsLen proposed + token.length ≤ 65535)
    (hack : challenge ≠ [] → 24 + (Wire.bindAck .little (server.ack proposed)
      (server.filler proposed)).length + acceptor.padding.length + challenge.length ≤ 65535)
    (hauth3 : 28 + answer.length ≤ 65535) :
    ∃ (c : RpcClient (AuthConnection server acceptor) A) (w : World (AuthConnection server acceptor) A)
      (accepted : AcceptedContext),
      bindWithAuthProvider (AuthConnection.start server acceptor state s) proposed target a = (.ok c, w) ∧
      (server.ack proposed).acceptedContext proposed = .ok accepted ∧ AtRest c ∧
      c.contextId = accepted.contextId ∧ c.authProvider = some a' ∧ c.transport.context = s' ∧
      c.transport.connection.state = state ∧ c.transport.connection.served = [] := by
  obtain ⟨a₁, hinit, hlevel⟩ := h.initContext
  obtain ⟨s₁, hchallenge⟩ := h.challenge_eq
  have haccepts := server.accepts proposed hne hlen
  obtain ⟨accepted, haccepted⟩ := haccepts.exists_acceptedContext
  obtain ⟨bytes, hencode⟩ : ∃ bytes, (authBind proposed a₁ token).encode = .ok bytes :=
    ⟨_, PduPacket.encode_of_size (iff_of_false (Option.some_ne_none _) htoken)
      ((authBind_size proposed a₁ token).trans_le hbind)⟩
  obtain ⟨response, hdecode, hid, htype, hbody, hresponse⟩ :=
    AuthConnection.decode_ack acceptor haccepts.fits hack
  have hdecodeAck := BindAckPdu.decode_eq_ok.mpr ⟨haccepts.countable, server.filler proposed, hbody⟩
  have hreceive := AuthConnection.receive_authBind hd hlen hcounted htoken hencode
    (AuthConnection.start server acceptor state s) hchallenge
  -- the world after the Bind, and after the ack
  obtain ⟨w₁, hinitExec, hprovider₁, ht₁⟩ : ∃ w₁ : World (AuthConnection server acceptor) A,
      (initAuth target).exec
        { transport := .start server acceptor state s, authProvider := some a, trace := [] } =
          (.ok (some token), w₁) ∧
      w₁.authProvider = some a₁ ∧ w₁.transport = .start server acceptor state s :=
    ⟨_, exec_bind_of_ok (exec_initContext hinit _), rfl, rfl⟩
  obtain ⟨w₂, hsend, hprovider₂, ht₂⟩ : ∃ w₂, (sendPdu bytes).exec w₁ = (.ok (), w₂) ∧
      w₂.authProvider = some a₁ ∧ w₂.transport = w₁.transport.receive bytes := ⟨_, rfl, hprovider₁, rfl⟩
  rw [ht₁, hreceive] at ht₂
  have hrecv : RpcTransport.recvPdu w₂.transport =
      (.ok (AuthConnection.ack server acceptor 1 proposed challenge),
        { connection := .start server state, context := s₁ }) := by
    rw [ht₂]
    rfl
  obtain ⟨w₃, hrecv, hprovider₃, ht₃⟩ : ∃ w₃, recvPdu.exec w₂ = (.ok _, w₃) ∧
      w₃.authProvider = some a₁ ∧ w₃.transport = { connection := .start server state, context := s₁ } :=
    ⟨_, exec_recvPdu hrecv, hprovider₂, rfl⟩
  obtain ⟨w₄, hanswer, hprovider₄, ht₄⟩ := h.answerChallenge_exec hd hauth3 hresponse
    (hprovider₃.trans (by rw [hinit])) (by rw [ht₃, hchallenge])
  rw [ht₃] at ht₄
  rw [bindWithAuthProvider, bindWithContextsInner_exec, if_neg hne, hinitExec]
  dsimp only
  rw [hprovider₁, bindBytes_some hcounted hlevel, hencode]
  refine ⟨_, w₄, accepted, (exec_bind_of_ok hsend).trans
    (bindResponse_of_answered hrecv hdecode hid htype hdecodeAck haccepted hanswer),
    haccepted, ⟨?_, haccepts.room, ?_⟩, rfl, hprovider₄, ?_, ?_, ?_⟩
  · show LevelSupported w₄.authProvider
    rw [hprovider₄]
    exact fun b hb => Option.some.inj hb ▸ h.supported
  · show w₄.transport.connection.outgoing = []
    rw [ht₄]
    rfl
  · show w₄.transport.context = s'
    rw [ht₄]
  · show w₄.transport.connection.state = state
    rw [ht₄]
    rfl
  · show w₄.transport.connection.served = []
    rw [ht₄]
    rfl

end Exchange

end

section

open Standard

theorem length_tokenPadding : ([0, 0, 0] : List UInt8).length = (3 : UInt8).toNat := rfl

/-- An acceptor that keeps the tokens it gets, and admits a client that sent 3
and, to the challenge 5, the answer 4. -/
def tokenAcceptor : Acceptor (List (List UInt8)) where
  trailer := ⟨.winNt, .connect, 3, 0, 11⟩
  padding := [0, 0, 0]
  length_padding := length_tokenPadding
  challenge tokens token := ([5], tokens ++ [token])
  finish tokens token := tokens ++ [token]
  admits tokens := tokens == [[3], [4]]

end

end Rpce
