import MsrpceDcerpc.Lib.Effect
import MsrpceDcerpc.Model.Bind

/-!
# The client (`client.rs`)

`bindWithContextsInner` runs over a `World`: the transport, the auth provider
and the `trace` of what the client did with them, which the code does not
have and no function of the model reads. A `RpcClient` is a world with the
client's three numbers. A bind has no loop; the two loops of a call are
`sendLoop`, whose bound is the length of the stub and is never reached, and
`recvLoop`, which runs for as long as the transport delivers fragments and so
takes its bound from the caller: a call that reaches it has not returned.
-/

namespace Rpce

open Rust Endian

/-- What the client did: the call of `call_raw` with its arguments, and each
use of the provider and of the transport, with its result. A PDU is recorded
with the provider as it was when the transport got it. -/
inductive Event (A : Type) where
  | callRaw (opnum : UInt16) (requestStub : List UInt8)
  | initContext (target : String) (result : Except RpcAuthError (List UInt8))
  | step (challenge : List UInt8) (result : Except RpcAuthError (List UInt8))
  | sendPdu (bytes : List UInt8) (authProvider : Option A) (result : Except Error Unit)
  | recvPdu (result : Except Error (List UInt8))

/-- The transport and the provider of a client, and what was done with them. -/
structure World (T A : Type) where
  transport : T
  authProvider : Option A
  trace : List (Event A)

/-- `client::RpcClient`. -/
structure RpcClient (T A : Type) extends World T A where
  contextId : UInt16
  callId : UInt32
  maxXmitFrag : UInt16

def REQUEST_HEADER_LEN : Nat := 8
def DEFAULT_MAX_XMIT_FRAG : UInt16 := 4280

variable {T A : Type}

/-! ## The provider and the transport -/

section Effects

/-- `err.into()` on the error of a provider. -/
def ofAuthResult (r : Except RpcAuthError (List UInt8)) : Result (List UInt8) :=
  mapErr r Error.ofAuth

def World.log (w : World T A) (e : Event A) : World T A := { w with trace := w.trace ++ [e] }

/-- `transport.send_pdu(bytes)?`. -/
def sendPdu [RpcTransport T] (bytes : List UInt8) : Eff (Stop Error) (World T A) Unit :=
  .ofFun fun w =>
    let (result, transport) := RpcTransport.sendPdu w.transport bytes
    (mapErr result id, { w with transport }.log (.sendPdu bytes w.authProvider result))

/-- `transport.recv_pdu()?`. -/
def recvPdu [RpcTransport T] : Eff (Stop Error) (World T A) (List UInt8) :=
  .ofFun fun w =>
    let (result, transport) := RpcTransport.recvPdu w.transport
    (mapErr result id, { w with transport }.log (.recvPdu result))

theorem exec_sendPdu [RpcTransport T] {w : World T A} {t : T} {bytes : List UInt8}
    {result : Except Error Unit} (h : RpcTransport.sendPdu w.transport bytes = (result, t)) :
    (sendPdu bytes).exec w = (mapErr result id,
      { w with transport := t }.log (.sendPdu bytes w.authProvider result)) := by
  rw [sendPdu, Eff.exec_ofFun, h]

theorem exec_recvPdu [RpcTransport T] {w : World T A} {t : T} {result : Except Error (List UInt8)}
    (h : RpcTransport.recvPdu w.transport = (result, t)) :
    recvPdu.exec w = (mapErr result id, { w with transport := t }.log (.recvPdu result)) := by
  rw [recvPdu, Eff.exec_ofFun, h]

variable [RpcAuthProvider A]

/-- `provider.init_context(target)?`. -/
def initContext (a : A) (target : String) : Eff (Stop Error) (World T A) (List UInt8) :=
  .ofFun fun w =>
    let (result, a) := RpcAuthProvider.initContext a target
    (ofAuthResult result, { w with authProvider := some a }.log (.initContext target result))

/-- `provider.step(challenge)?`. -/
def stepProvider (a : A) (challenge : List UInt8) : Eff (Stop Error) (World T A) (List UInt8) :=
  .ofFun fun w =>
    let (result, a) := RpcAuthProvider.step a challenge
    (ofAuthResult result, { w with authProvider := some a }.log (.step challenge result))

theorem exec_initContext {a a' : A} {target : String} {result : Except RpcAuthError (List UInt8)}
    (h : RpcAuthProvider.initContext a target = (result, a')) (w : World T A) :
    (initContext a target).exec w = (ofAuthResult result,
      { w with authProvider := some a' }.log (.initContext target result)) := by
  rw [initContext, Eff.exec_ofFun, h]

theorem exec_stepProvider {a a' : A} {challenge : List UInt8}
    {result : Except RpcAuthError (List UInt8)} (h : RpcAuthProvider.step a challenge = (result, a'))
    (w : World T A) : (stepProvider a challenge).exec w = (ofAuthResult result,
      { w with authProvider := some a' }.log (.step challenge result)) := by
  rw [stepProvider, Eff.exec_ofFun, h]

end Effects

/-! ## Authenticated packets -/

section Packets

def authPaddingLen (bodyLen : Nat) : Result UInt8 := do
  let r ← subUsize 4 (bodyLen % 4)
  return UInt8.ofNat (r % 4)

def authPfcFlags : UInt8 := PFC_FIRST_FRAG ||| PFC_LAST_FRAG

variable [DataRepresentation] [RpcAuthProvider A]

def securityTrailer (provider : A) (authPadLength : UInt8) : SecurityTrailer :=
  { authType := RpcAuthProvider.authType provider
    authLevel := RpcAuthProvider.authLevel provider
    authPadLength
    authReserved := 0
    authContextId := RpcAuthProvider.authContextId provider }

def authenticatedPacket (ptype : PduType) (callId : UInt32) (pfcFlags : UInt8) (body : List UInt8)
    (provider : A) (authValue : List UInt8) : Result PduPacket := do
  failIf (RpcAuthProvider.authLevel provider = .packetIntegrity ∨
      RpcAuthProvider.authLevel provider = .packetPrivacy)
    (.auth "RPC auth levels above Connect are not supported in v1")
  let header := PduHeader.new ptype pfcFlags callId
  let padLength ← authPaddingLen body.length
  return PduPacket.withSecurityTrailer header body (securityTrailer provider padLength) authValue

end Packets

/-! ## Binding -/

section Bind

variable [DataRepresentation] [UuidCrate] [RpcTransport T] [RpcAuthProvider A]

/-- The token of `provider.init_context(target)`, with a provider. -/
def initAuth (target : String) : Eff (Stop Error) (World T A) (Option (List UInt8)) := do
  match (← get).authProvider with
  | none => return none
  | some provider => return some (← initContext provider target)

/-- The Bind packet: with a security trailer if there is a provider. -/
def bindPacket (callId : UInt32) (bindBody : List UInt8) (token : Option (List UInt8))
    (authProvider : Option A) : Result PduPacket :=
  match authProvider, token with
  | some provider, some token =>
    authenticatedPacket .bind callId authPfcFlags bindBody provider token
  | _, _ =>
    .ok (PduPacket.new (PduHeader.new .bind (PFC_FIRST_FRAG ||| PFC_LAST_FRAG) callId) bindBody [])

/-- The provider's answer to the auth value of the bind ack, if there is one. -/
def answerChallenge (callId : UInt32) (response : PduPacket) :
    Eff (Stop Error) (World T A) Unit := do
  match (← get).authProvider with
  | none => return
  | some provider =>
    if response.authValue = [] then return
    else
      let token ← stepProvider provider response.authValue
      if token = [] then return
      else match (← get).authProvider with
        | none => return
        | some provider =>
          let auth3 ← liftM (authenticatedPacket .auth3 callId authPfcFlags
            [0x20, 0x20, 0x20, 0x20] provider token)
          sendPdu (← liftM auth3.encode)

/-- The client of an accepted bind. -/
def bindAccepted (callId : UInt32) (proposed : List PresentationContext) (response : PduPacket) :
    Eff (Stop Error) (World T A) (RpcClient T A) := do
  let ack ← liftM (BindAckPdu.decode response.body)
  let accepted ← liftM (ack.acceptedContext proposed)
  answerChallenge callId response
  return { (← get) with
    contextId := accepted.contextId, callId := callId + 1, maxXmitFrag := ack.maxXmitFrag }

/-- `bind_with_contexts_inner`, in a world with the provider of `auth`, whose
target is `target`. -/
def bindWithContextsInner (proposed : List PresentationContext) (target : String) :
    Eff (Stop Error) (World T A) (RpcClient T A) := do
  liftM (failIf (proposed = [])
    (Error.invalidPdu "bind requires at least one presentation context"))
  let token ← initAuth target
  let bind ← liftM (BindPdu.withContexts DEFAULT_MAX_XMIT_FRAG DEFAULT_MAX_XMIT_FRAG 0 proposed)
  let callId : UInt32 := 1
  let packet ← liftM (bindPacket callId bind.encode token (← get).authProvider)
  sendPdu (← liftM packet.encode)
  let response ← liftM (PduPacket.decode (← recvPdu))
  liftM (failIf (response.header.callId ≠ callId)
    (Error.invalidPdu "bind response call id mismatch"))
  match response.header.ptype with
  | .bindAck => bindAccepted callId proposed response
  | .bindNak =>
    let nak ← liftM (BindNakPdu.decode response.body)
    throw (.err (.bindRejected nak.rejectReason))
  | _ => throw (.err (.invalidPdu "expected bind ack or bind nak PDU"))

/-- `RpcClient::bind_with_contexts`: the result, and the world it left. -/
def bindWithContexts (transport : T) (proposed : List PresentationContext) :
    Result (RpcClient T A) × World T A :=
  (bindWithContextsInner proposed "").exec { transport, authProvider := none, trace := [] }

/-- `RpcClient::bind_with_auth_provider`. -/
def bindWithAuthProvider (transport : T) (proposed : List PresentationContext) (target : String)
    (authProvider : A) : Result (RpcClient T A) × World T A :=
  (bindWithContextsInner proposed target).exec
    { transport, authProvider := some authProvider, trace := [] }

/-- `RpcClient::bind`. -/
def bind (transport : T) (interface : InterfaceId) : Result (RpcClient T A) × World T A :=
  bindWithContexts transport [PresentationContext.new 0 interface.syntaxId [.ndr32]]

end Bind

/-- `RpcClient::new_bound`. -/
def newBound (transport : T) (contextId : UInt16) : RpcClient T A :=
  { transport, authProvider := none, trace := [], contextId, callId := 1,
    maxXmitFrag := DEFAULT_MAX_XMIT_FRAG }

/-- `RpcClient::new_bound_with_auth`. -/
def newBoundWithAuth (transport : T) (contextId : UInt16) (authProvider : A) : RpcClient T A :=
  { transport, authProvider := some authProvider, trace := [], contextId, callId := 1,
    maxXmitFrag := DEFAULT_MAX_XMIT_FRAG }

/-- `RpcClient::with_max_xmit_frag`. -/
def RpcClient.withMaxXmitFrag (c : RpcClient T A) (maxXmitFrag : UInt16) : RpcClient T A :=
  { c with maxXmitFrag }

/-! ## Calls -/

section Calls

namespace RpcClient

/-- An action on the client's transport and provider. -/
def onWorld {α : Type} (x : Eff (Stop Error) (World T A) α) :
    Eff (Stop Error) (RpcClient T A) α :=
  Eff.zoom RpcClient.toWorld (fun c w => { c with toWorld := w }) x

/-- `wrapping_add(1).max(1)`. -/
def succCallId (callId : UInt32) : UInt32 := max (callId + 1) 1

def nextCallId : Eff (Stop Error) (RpcClient T A) UInt32 := do
  let callId := (← get).callId
  modify fun c => { c with callId := succCallId c.callId }
  return callId

/-- The check of the level that `request_packet` and `verify_response_packet`
both make. -/
def checkAuthLevel [RpcAuthProvider A] (authProvider : Option A) : Result Unit :=
  match authProvider with
  | none => .ok ()
  | some provider =>
    match RpcAuthProvider.authLevel provider with
    | .none => .ok ()
    | .connect => .ok ()
    | .packetIntegrity =>
      .error (.err (.auth "RPC auth level PacketIntegrity is not supported in v1"))
    | .packetPrivacy =>
      .error (.err (.auth "RPC auth level PacketPrivacy is not supported in v1"))

variable [DataRepresentation] [UuidCrate] [RpcTransport T] [RpcAuthProvider A]

def requestFragment (c : RpcClient T A) (opnum : UInt16) (allocHint : UInt32)
    (stubData : List UInt8) : RequestPdu :=
  { allocHint, ctxId := c.contextId, opnum, object := none, stubData }

def requestPacket (callId : UInt32) (pfcFlags : UInt8) (request : RequestPdu) :
    Eff (Stop Error) (RpcClient T A) PduPacket := do
  liftM (checkAuthLevel (← get).authProvider)
  liftM (PduPacket.fromRequestWithFlags callId pfcFlags request)

/-- `let packet = self.request_packet(..)?; self.transport.send_pdu(&packet.encode()?)?`. -/
def sendFragment (callId : UInt32) (pfcFlags : UInt8) (request : RequestPdu) :
    Eff (Stop Error) (RpcClient T A) Unit := do
  let packet ← requestPacket callId pfcFlags request
  onWorld (sendPdu (← liftM packet.encode))

/-- The loop over the fragments of the stub, from `offset` on. -/
def sendLoop (callId : UInt32) (opnum : UInt16) (requestStub : List UInt8) (maxStubPerFrag : Nat) :
    Nat → Nat → Eff (Stop Error) (RpcClient T A) Unit
  | 0, offset => if offset < requestStub.length then throw .fuel else return
  | fuel + 1, offset =>
    if offset < requestStub.length then do
      let stop := min (offset + maxStubPerFrag) requestStub.length
      let first := if offset = 0 then PFC_FIRST_FRAG else 0
      let last := if stop = requestStub.length then PFC_LAST_FRAG else 0
      let stubData ← liftM (slice requestStub offset stop : Result (List UInt8))
      let request := requestFragment (← get) opnum (UInt32.ofNat requestStub.length) stubData
      sendFragment callId (first ||| last) request
      sendLoop callId opnum requestStub maxStubPerFrag fuel stop
    else return

def sendRequestFragments (callId : UInt32) (opnum : UInt16) (requestStub : List UInt8) :
    Eff (Stop Error) (RpcClient T A) Unit := do
  let c ← get
  let maxStubPerFrag ← liftM (okOr
    (checkedSub c.maxXmitFrag.toNat (headerLen + REQUEST_HEADER_LEN))
    (Error.invalidPdu "max transmit fragment is too small"))
  liftM (failIf (maxStubPerFrag = 0) (Error.invalidPdu "max transmit fragment is too small"))
  if requestStub = [] then
    sendFragment callId (PFC_FIRST_FRAG ||| PFC_LAST_FRAG) (requestFragment c opnum 0 requestStub)
  else
    sendLoop callId opnum requestStub maxStubPerFrag requestStub.length 0

/-- `verify_response_packet`: it looks at neither the bytes nor the packet. -/
def verifyResponsePacket (_bytes : List UInt8) (_packet : PduPacket) :
    Eff (Stop Error) (RpcClient T A) Unit := do
  liftM (checkAuthLevel (← get).authProvider)

/-- The loop over the fragments of the response, for at most `fuel` PDUs:
`responseStub` is what was collected, `sawFirst` whether the first fragment
was seen. -/
def recvLoop (expectedCallId : UInt32) :
    Nat → List UInt8 → Bool → Eff (Stop Error) (RpcClient T A) (List UInt8)
  | 0, _, _ => throw .fuel
  | fuel + 1, responseStub, sawFirst => do
    let bytes ← onWorld recvPdu
    let packet ← liftM (PduPacket.decode bytes)
    verifyResponsePacket bytes packet
    liftM (failIf (packet.header.callId ≠ expectedCallId)
      (Error.invalidPdu "response call id does not match request"))
    match packet.header.ptype with
    | .response =>
      let sawFirst := sawFirst || packet.header.pfcFlags &&& PFC_FIRST_FRAG != 0
      liftM (failIf (sawFirst = false) (Error.invalidPdu "response is missing first fragment"))
      let response ← liftM (ResponsePdu.decode packet.body)
      let responseStub := responseStub ++ response.stubData
      if packet.header.pfcFlags &&& PFC_LAST_FRAG != 0 then return responseStub
      else recvLoop expectedCallId fuel responseStub sawFirst
    | .fault =>
      let fault ← liftM (FaultPdu.decode packet.body)
      throw (.err (.fault fault.status))
    | _ => throw (.err (.invalidPdu "expected response or fault PDU"))

def recvResponseFragments (fuel : Nat) (expectedCallId : UInt32) :
    Eff (Stop Error) (RpcClient T A) (List UInt8) :=
  recvLoop expectedCallId fuel [] false

def callRaw (fuel : Nat) (opnum : UInt16) (requestStub : List UInt8) :
    Eff (Stop Error) (RpcClient T A) (List UInt8) := do
  modify fun c => { c with toWorld := c.toWorld.log (.callRaw opnum requestStub) }
  let callId ← nextCallId
  sendRequestFragments callId opnum requestStub
  recvResponseFragments fuel callId

def call {Req Resp : Type} [NdrSerialize Req] [NdrDeserialize Resp] (fuel : Nat) (opnum : UInt16)
    (request : Req) : Eff (Stop Error) (RpcClient T A) Resp := do
  let ndr := Ndr.new
  let requestStub ← liftM (mapErr (NdrSerialize.serialize ndr request) Error.ndr)
  let responseStub ← callRaw fuel opnum requestStub
  liftM (mapErr (NdrDeserialize.deserialize ndr responseStub) Error.ndr)

end RpcClient

end Calls

end Rpce
