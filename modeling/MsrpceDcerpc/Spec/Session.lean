import MsrpceDcerpc.Lib.Chunk
import MsrpceDcerpc.Lib.Run
import MsrpceDcerpc.Model.Client

/-!
# Sessions

What a client does over its life, as seen from outside: the PDUs it sent and
those it was delivered (`sent`, `received`), one call with all it did
(`Call`), and a session as a run of calls (`CallStep`). `requestFrames` is the
list of PDUs a request is cut into.
-/

namespace Rpce

open Rust Endian

variable {T A : Type}

/-! ## What was sent and received -/

/-- The PDUs that were handed to the transport. -/
def sent (trace : List (Event A)) : List (List UInt8) :=
  trace.filterMap fun
    | .sendPdu bytes _ _ => some bytes
    | _ => none

/-- The PDUs the transport delivered. -/
def received (trace : List (Event A)) : List (List UInt8) :=
  trace.filterMap fun
    | .recvPdu (.ok bytes) => some bytes
    | _ => none

/-- The stubs that were handed to `call_raw`. -/
def stubs (trace : List (Event A)) : List (List UInt8) :=
  trace.filterMap fun
    | .callRaw _ requestStub => some requestStub
    | _ => none

@[simp] theorem sent_append (t₁ t₂ : List (Event A)) : sent (t₁ ++ t₂) = sent t₁ ++ sent t₂ :=
  List.filterMap_append

@[simp] theorem received_append (t₁ t₂ : List (Event A)) :
    received (t₁ ++ t₂) = received t₁ ++ received t₂ := List.filterMap_append

@[simp] theorem stubs_append (t₁ t₂ : List (Event A)) : stubs (t₁ ++ t₂) = stubs t₁ ++ stubs t₂ :=
  List.filterMap_append

theorem sent_eq_nil {events : List (Event A)} (h : ∀ e ∈ events, sent [e] = []) : sent events = [] := by
  induction events with
  | nil => rfl
  | cons e events ih =>
    obtain ⟨he, hrest⟩ := List.forall_mem_cons.mp h
    rw [← List.singleton_append, sent_append, he, ih hrest, List.append_nil]

theorem received_eq_nil {events : List (Event A)} (h : ∀ e ∈ events, received [e] = []) :
    received events = [] := by
  induction events with
  | nil => rfl
  | cons e events ih =>
    obtain ⟨he, hrest⟩ := List.forall_mem_cons.mp h
    rw [← List.singleton_append, received_append, he, ih hrest, List.append_nil]

/-- The bind ack among what a bind received: it received one PDU, and this is
it. -/
structure AckedBy [DataRepresentation] [UuidCrate] (trace : List (Event A)) (response : PduPacket)
    (ack : BindAckPdu) : Prop where
  received : ∃ bytes, received trace = [bytes] ∧ PduPacket.decode bytes = .ok response
  callId : response.header.callId = 1
  ptype : response.header.ptype = .bindAck
  body : BindAckPdu.decode response.body = .ok ack

/-! ## Requests -/

section Requests

variable [DataRepresentation] [UuidCrate]

/-- The packet of a fragment of a request. -/
def requestFragmentPacket (callId : UInt32) (pfcFlags : UInt8) (request : RequestPdu) : PduPacket :=
  PduPacket.new
    { PduHeader.new .request pfcFlags callId with
      fragLength := UInt16.ofNat (24 + request.stubData.length) } request.encode []

/-- The bytes of a fragment of a request. -/
def requestFrame (callId : UInt32) (pfcFlags : UInt8) (request : RequestPdu) : List UInt8 :=
  (requestFragmentPacket callId pfcFlags request).header.encode ++ request.encode

/-- The pieces of a stub as the fragments of a request: the first has the flags
`first`, and the last is flagged as the last. -/
def fragmentsOf (contextId opnum : UInt16) (allocHint : UInt32) (first : UInt8)
    (pieces : List (List UInt8)) : List (UInt8 × RequestPdu) :=
  (Chunk.marked (· ||| ·) 0 PFC_LAST_FRAG first pieces).map fun (flags, stubData) =>
    (flags, { allocHint, ctxId := contextId, opnum, object := none, stubData })

/-- The fragments of a request whose stub is `stub`, at most `n` bytes of it in
each. -/
def requestFragments (contextId opnum : UInt16) (stub : List UInt8) (n : Nat) :
    List (UInt8 × RequestPdu) :=
  fragmentsOf contextId opnum (UInt32.ofNat stub.length) PFC_FIRST_FRAG (Chunk.chunks n stub)

/-- The PDUs of a request on a connection whose fragments have at most
`maxXmitFrag` bytes. -/
def requestFrames (callId : UInt32) (contextId opnum : UInt16) (stub : List UInt8)
    (maxXmitFrag : UInt16) : List (List UInt8) :=
  (requestFragments contextId opnum stub (maxXmitFrag.toNat - 24)).map fun (flags, request) =>
    requestFrame callId flags request

end Requests

/-! ## Calls -/

/-- The level of a client's provider, if it has one, is one that version 1
supports. -/
def LevelSupported [RpcAuthProvider A] (authProvider : Option A) : Prop :=
  ∀ a ∈ authProvider, (RpcAuthProvider.authLevel a).Supported

/-- A call of `call_raw`: its arguments, the call id it used, what it returned
and what it did with the transport. -/
structure Call (A : Type) where
  opnum : UInt16
  requestStub : List UInt8
  callId : UInt32
  result : Result (List UInt8)
  events : List (Event A)

/-- A fragment of a response to the call `callId`, as it was delivered. -/
structure Fragment [DataRepresentation] (callId : UInt32) where
  bytes : List UInt8
  packet : PduPacket
  response : ResponsePdu
  decode_bytes : PduPacket.decode bytes = .ok packet
  callId_eq : packet.header.callId = callId
  ptype_eq : packet.header.ptype = .response
  decode_body : ResponsePdu.decode packet.body = .ok response

section

variable [DataRepresentation] [UuidCrate] [RpcTransport T] [RpcAuthProvider A]

/-- The client `c` makes `call`, which returns: its loop ends in a result. -/
structure CallStep (c : RpcClient T A) (call : Call A) (c' : RpcClient T A) : Prop where
  exec : ∃ fuel, (RpcClient.callRaw fuel call.opnum call.requestStub).exec c = (call.result, c')
  returns : call.result ≠ .error .fuel
  callId : call.callId = c.callId
  trace : c'.trace = c.trace ++ .callRaw call.opnum call.requestStub :: call.events

/-- A client calling, any number of times. -/
abbrev Session : RpcClient T A → List (Call A) → RpcClient T A → Prop := Run CallStep

/-- The call id of the `n`th call after one with the id `start`: the ids count
from 1 to `2 ^ 32 - 1` and start again. -/
def callIdAfter (start : UInt32) (n : Nat) : Nat := (start.toNat - 1 + n) % (2 ^ 32 - 1) + 1

/-- The answers of a session are kept apart: the ids of any `2 ^ 32 - 1` calls
in a row are different, and a stub that a call returned is put together from
responses with its own id. -/
structure Separated (c : RpcClient T A) (calls : List (Call A)) (c' : RpcClient T A) : Prop where
  contextId : c'.contextId = c.contextId
  maxXmitFrag : c'.maxXmitFrag = c.maxXmitFrag
  callId : c'.callId.toNat = callIdAfter c.callId calls.length
  callId_ne_zero : ∀ call ∈ calls, call.callId ≠ 0
  callId_at : ∀ i call, calls[i]? = some call → call.callId.toNat = callIdAfter c.callId i
  callId_ne : ∀ i j call call', i < j → j < i + (2 ^ 32 - 1) → calls[i]? = some call →
    calls[j]? = some call' → call.callId ≠ call'.callId
  sent : ∀ call ∈ calls, ∀ bytes ∈ sent call.events,
    ∃ packet, PduPacket.encode packet = .ok bytes ∧ packet.header.callId = call.callId
  answer : ∀ call ∈ calls, ∀ stub, call.result = .ok stub →
    ∃ fragments : List (Fragment call.callId), received call.events = fragments.map (·.bytes) ∧
      stub = fragments.flatMap (·.response.stubData)
  foreign : ∀ i j call call' stub, i ≠ j → i < j + (2 ^ 32 - 1) → j < i + (2 ^ 32 - 1) →
    calls[i]? = some call → calls[j]? = some call' → call.result = .ok stub →
    ∀ bytes ∈ received call.events, ∀ packet, PduPacket.decode bytes = .ok packet →
      packet.header.callId ≠ call'.callId

/-- A bind with `proposed` that returned the client `c`. -/
inductive Bound : List PresentationContext → RpcClient T A → Prop where
  | bindWithContexts {proposed c w} (transport : T) :
      bindWithContexts transport proposed = (.ok c, w) → Bound proposed c
  | bindWithAuthProvider {proposed c w} (transport : T) (target : String) (authProvider : A) :
      bindWithAuthProvider transport proposed target authProvider = (.ok c, w) → Bound proposed c
  | bind {c w} (transport : T) (interface : InterfaceId) : bind transport interface = (.ok c, w) →
      Bound [PresentationContext.new 0 interface.syntaxId [.ndr32]] c

/-- The clients of the constructors. -/
inductive Constructed : RpcClient T A → Prop where
  | bound {proposed c} : Bound proposed c → Constructed c
  | newBound (transport contextId) : Constructed (newBound transport contextId)
  | newBoundWithAuth (transport contextId authProvider) :
      Constructed (newBoundWithAuth transport contextId authProvider)
  | withMaxXmitFrag {c} (maxXmitFrag) : Constructed c → Constructed (c.withMaxXmitFrag maxXmitFrag)

/-- What is done with a client once it is bound: a call, whose loop makes at
most `fuel` rounds, or another limit for its fragments. -/
inductive Use where
  | callRaw (fuel : Nat) (opnum : UInt16) (requestStub : List UInt8)
  | withMaxXmitFrag (maxXmitFrag : UInt16)

/-- A client is used. -/
inductive UseStep : RpcClient T A → Use → RpcClient T A → Prop where
  | callRaw {c c' fuel opnum requestStub r} :
      (RpcClient.callRaw fuel opnum requestStub).exec c = (r, c') →
      UseStep c (.callRaw fuel opnum requestStub) c'
  | withMaxXmitFrag (c : RpcClient T A) (maxXmitFrag) :
      UseStep c (.withMaxXmitFrag maxXmitFrag) (c.withMaxXmitFrag maxXmitFrag)

/-- Each PDU of the trace was handed to the transport while the level of the
provider was supported. -/
def SentSupported (trace : List (Event A)) : Prop :=
  ∀ bytes authProvider result, .sendPdu bytes authProvider result ∈ trace → LevelSupported authProvider

end

end Rpce
