import MsrpceDcerpc.Spec.Wire
import MsrpceDcerpc.Spec.Session

/-!
# A conforming server

The other end of a connection, which the repository does not have: it answers
a Bind with a bind ack that accepts one of the contexts, collects the
fragments of a request from the first to the last, and answers the request
with a response in fragments or with a fault. What it computes, which of the
contexts it accepts, how it cuts a response into fragments and what it writes
into the fields no client needs is free: a `Server` is these choices, with the
laws a conforming server keeps.

A `Connection` to a server is a transport. It delivers what the server sent,
in order, and keeps a log of the requests the server has put together. What it gets
are the wire forms of a Bind (`wireBind`) and of the fragments of requests
(`Call.SentRequest`).
-/

namespace Rpce

open Rust Endian

/-! ## Answers -/

/-- A fragment of a response, in one PDU. -/
structure ResponseFragment where
  versionMinor : UInt8
  pfcFlags : UInt8
  response : ResponsePdu
  reserved : UInt8
  fits : response.stubData.length ≤ 65511

/-- A response in fragments. The first is flagged as the first, and the last is
flagged as the last and no other is. -/
structure FragmentedResponse where
  init : List ResponseFragment
  last : ResponseFragment
  first_flagged : ∀ f ∈ (init ++ [last]).head?, f.pfcFlags &&& PFC_FIRST_FRAG ≠ 0
  last_flagged : last.pfcFlags &&& PFC_LAST_FRAG ≠ 0
  init_not_flagged : ∀ f ∈ init, f.pfcFlags &&& PFC_LAST_FRAG = 0

/-- The fragments, at least one. -/
def FragmentedResponse.fragments (r : FragmentedResponse) : List ResponseFragment := r.init ++ [r.last]

/-- The stub that was cut into the fragments. -/
def FragmentedResponse.stub (r : FragmentedResponse) : List UInt8 :=
  r.fragments.flatMap (·.response.stubData)

/-- The answer of a server to a request. -/
inductive Answer where
  | response (r : FragmentedResponse)
  | fault (versionMinor pfcFlags : UInt8) (f : FaultPdu) (reserved : UInt8)
      (fits : f.stubData.length ≤ 65507)

namespace Answer

/-- What `call_raw` is to return for the answer. -/
def result : Answer → Result (List UInt8)
  | response r => .ok r.stub
  | fault _ _ f _ _ => .error (.err (.fault f.status))

/-- The PDUs of the answer. -/
def pdus (drep : PackedDrep) (callId : UInt32) : Answer → List (List UInt8)
  | response r => r.fragments.map fun f =>
    Wire.pdu .little drep f.versionMinor .response f.pfcFlags callId
      (Wire.response .little f.response f.reserved)
  | fault versionMinor pfcFlags f reserved _ =>
    [Wire.pdu .little drep versionMinor .fault pfcFlags callId (Wire.fault .little f reserved)]

end Answer

/-! ## Requests -/

variable [DataRepresentation] [UuidCrate]

/-- The Bind of a client without a provider, on the wire. -/
def wireBind (proposed : List PresentationContext) : List UInt8 :=
  Wire.pdu .little DataRepresentation.windowsDefault 0 .bind (PFC_FIRST_FRAG ||| PFC_LAST_FRAG) 1
    (Wire.bind .little DEFAULT_MAX_XMIT_FRAG DEFAULT_MAX_XMIT_FRAG 0 0 0 0
      (proposed.map fun c => (c, 0)))

/-- What a client sent in a call is the request on the wire: pieces of its stub as
fragments, each with the id of the call, the context and the opnum, of which the first is
flagged as the first and the last as the last. -/
def Call.SentRequest {A : Type} (contextId : UInt16) (call : Call A) : Prop :=
  ∃ pieces : List (List UInt8), pieces ≠ [] ∧ pieces.flatten = call.requestStub ∧
    sent call.events = (fragmentsOf contextId call.opnum (UInt32.ofNat call.requestStub.length)
      PFC_FIRST_FRAG pieces).map fun (pfcFlags, request) =>
        Wire.pdu .little DataRepresentation.windowsDefault 0 .request pfcFlags call.callId
          (Wire.request .little request)

/-! ## Servers -/

/-- The bind ack a conforming server gives for `proposed`. -/
structure Accepts (proposed : List PresentationContext) (ack : BindAckPdu)
    (filler : Wire.AckFiller ack) : Prop where
  countable : Wire.Countable ack
  results : ack.results.length = proposed.length
  acceptance : ∃ r ∈ ack.results, r.result = .acceptance
  room : 25 ≤ ack.maxXmitFrag.toNat
  fits : 16 + (Wire.bindAck .little ack filler).length ≤ 65535

/-- A conforming little-endian server, with a state of its own. -/
structure Server (σ : Type) where
  drep : PackedDrep
  drep_little : DataRepresentation.fromBytes drep = .ok .little
  ackVersionMinor : UInt8
  ackFlags : UInt8
  ack : List PresentationContext → BindAckPdu
  filler : ∀ proposed, Wire.AckFiller (ack proposed)
  accepts : ∀ proposed, proposed ≠ [] → proposed.length ≤ 255 →
    Accepts proposed (ack proposed) (filler proposed)
  reply : σ → UInt16 → UInt16 → List UInt8 → Answer × σ

variable {σ : Type}

/-- The answers to a list of requests, each a context id, an opnum and a stub. -/
def Server.answers (server : Server σ) : σ → List (UInt16 × UInt16 × List UInt8) → List Answer
  | _, [] => []
  | s, (ctxId, opnum, stub) :: requests =>
    let (answer, s') := server.reply s ctxId opnum stub
    answer :: server.answers s' requests

/-- A request whose last fragment has not come yet. -/
structure Collecting where
  callId : UInt32
  ctxId : UInt16
  opnum : UInt16
  stub : List UInt8

/-- A connection to `server`. -/
structure Connection (server : Server σ) where
  state : σ
  collecting : Option Collecting
  outgoing : List (List UInt8)
  served : List (UInt16 × UInt16 × List UInt8)

namespace Connection

variable {server : Server σ}

/-- A connection on which nothing was sent yet. -/
def start (server : Server σ) (state : σ) : Connection server :=
  { state, collecting := none, outgoing := [], served := [] }

/-- The server has the whole request, and answers it. -/
def serve (t : Connection server) (r : Collecting) : Connection server :=
  let (answer, state) := server.reply t.state r.ctxId r.opnum r.stub
  { state
    collecting := none
    outgoing := t.outgoing ++ answer.pdus server.drep r.callId
    served := t.served ++ [(r.ctxId, r.opnum, r.stub)] }

/-- What the server has collected once it got a fragment. -/
def extended (t : Connection server) (header : PduHeader) (request : RequestPdu) : Option Collecting :=
  if header.pfcFlags &&& PFC_FIRST_FRAG ≠ 0 then
    some { callId := header.callId, ctxId := request.ctxId, opnum := request.opnum,
           stub := request.stubData }
  else match t.collecting with
    | some r =>
      if r.callId = header.callId then some { r with stub := r.stub ++ request.stubData } else none
    | none => none

/-- The server got a fragment of a request. -/
def collect (t : Connection server) (header : PduHeader) (request : RequestPdu) : Connection server :=
  match t.extended header request with
  | none => t
  | some r =>
    if header.pfcFlags &&& PFC_LAST_FRAG ≠ 0 then t.serve r else { t with collecting := some r }

/-- The server got a PDU. It ignores what it cannot read. -/
def receive (t : Connection server) (bytes : List UInt8) : Connection server :=
  match PduPacket.decode bytes with
  | .error _ => t
  | .ok packet =>
    match packet.header.ptype with
    | .bind =>
      match BindPdu.decode packet.body >>= BindPdu.contextList with
      | .error _ => t
      | .ok list =>
        { t with outgoing := t.outgoing ++ [Wire.pdu .little server.drep server.ackVersionMinor .bindAck
            server.ackFlags packet.header.callId (Wire.bindAck .little (server.ack list.contexts)
              (server.filler list.contexts))] }
    | .request =>
      match RequestPdu.decode packet.body (packet.header.pfcFlags &&& PFC_OBJECT_UUID != 0) with
      | .error _ => t
      | .ok request => t.collect packet.header request
    | _ => t

instance : RpcTransport (Connection server) where
  sendPdu t bytes := (.ok (), t.receive bytes)
  recvPdu t :=
    match t.outgoing with
    | [] => (.error (.transport "nothing was sent"), t)
    | bytes :: outgoing => (.ok bytes, { t with outgoing })

end Connection

end Rpce
