import MsrpceDcerpc.Model.Auth
import MsrpceDcerpc.Model.Crates

/-!
# PDUs (`pdu.rs`)

The common header, the packet with its optional security trailer, and the
bodies of the bind, request, response and fault PDUs, each with its `encode`
and `decode`.
-/

namespace Rpce

open Rust Endian DataRepresentation

def RPC_VERSION : UInt8 := 5
def RPC_VERSION_MINOR : UInt8 := 0
def COMMON_HEADER_LEN : UInt16 := 16

def PFC_FIRST_FRAG : UInt8 := 0x01
def PFC_LAST_FRAG : UInt8 := 0x02
def PFC_OBJECT_UUID : UInt8 := 0x80

/-- `COMMON_HEADER_LEN as usize`. -/
abbrev headerLen : Nat := COMMON_HEADER_LEN.toNat

/-! ## The security trailer -/

/-- `pdu::SecurityTrailer`. -/
structure SecurityTrailer where
  authType : RpcAuthType
  authLevel : AuthLevel
  authPadLength : UInt8
  authReserved : UInt8
  authContextId : UInt32
  deriving DecidableEq, Repr

namespace SecurityTrailer

def LEN : Nat := 8

def encode (t : SecurityTrailer) : List UInt8 :=
  [t.authType.toUInt8, t.authLevel.toUInt8, t.authPadLength, t.authReserved] ++
    u32Bytes .little t.authContextId

def decode (bytes : List UInt8) : Result SecurityTrailer := do
  failIf (bytes.length < LEN) (.invalidPdu "security trailer requires 8 bytes")
  let authType ← mapErr (RpcAuthType.tryFrom (← index bytes 0))
    fun _ => .invalidPdu "unsupported RPC auth type"
  let authLevel ← mapErr (AuthLevel.tryFrom (← index bytes 1))
    fun _ => .invalidPdu "unsupported RPC auth level"
  let authPadLength ← index bytes 2
  let authReserved ← index bytes 3
  let authContextId ← readU32 .little bytes 4
  return { authType, authLevel, authPadLength, authReserved, authContextId }

end SecurityTrailer

/-! ## The common header -/

/-- `pdu::PduType`. -/
inductive PduType where
  | request
  | ping
  | response
  | fault
  | working
  | noCall
  | reject
  | ack
  | clCancel
  | fack
  | cancelAck
  | bind
  | bindAck
  | bindNak
  | alterContext
  | alterContextResponse
  | auth3
  | shutdown
  | coCancel
  | orphaned
  deriving DecidableEq, Repr

namespace PduType

def toUInt8 : PduType → UInt8
  | request => 0x00
  | ping => 0x01
  | response => 0x02
  | fault => 0x03
  | working => 0x04
  | noCall => 0x05
  | reject => 0x06
  | ack => 0x07
  | clCancel => 0x08
  | fack => 0x09
  | cancelAck => 0x0A
  | bind => 0x0B
  | bindAck => 0x0C
  | bindNak => 0x0D
  | alterContext => 0x0E
  | alterContextResponse => 0x0F
  | auth3 => 0x10
  | shutdown => 0x11
  | coCancel => 0x12
  | orphaned => 0x13

def tryFrom (value : UInt8) : Result PduType :=
  match value with
  | 0x00 => .ok request
  | 0x01 => .ok ping
  | 0x02 => .ok response
  | 0x03 => .ok fault
  | 0x04 => .ok working
  | 0x05 => .ok noCall
  | 0x06 => .ok reject
  | 0x07 => .ok ack
  | 0x08 => .ok clCancel
  | 0x09 => .ok fack
  | 0x0A => .ok cancelAck
  | 0x0B => .ok bind
  | 0x0C => .ok bindAck
  | 0x0D => .ok bindNak
  | 0x0E => .ok alterContext
  | 0x0F => .ok alterContextResponse
  | 0x10 => .ok auth3
  | 0x11 => .ok shutdown
  | 0x12 => .ok coCancel
  | 0x13 => .ok orphaned
  | _ => .error (.err (.invalidPduType value))

end PduType

/-- `pdu::PduHeader`. -/
structure PduHeader where
  rpcVers : UInt8
  rpcVersMinor : UInt8
  ptype : PduType
  pfcFlags : UInt8
  packedDrep : PackedDrep
  fragLength : UInt16
  authLength : UInt16
  callId : UInt32
  deriving DecidableEq, Repr

section Header

variable [DataRepresentation]

namespace PduHeader

def new (ptype : PduType) (pfcFlags : UInt8) (callId : UInt32) : PduHeader :=
  { rpcVers := RPC_VERSION
    rpcVersMinor := RPC_VERSION_MINOR
    ptype
    pfcFlags
    packedDrep := windowsDefault
    fragLength := COMMON_HEADER_LEN
    authLength := 0
    callId }

def byteOrder (h : PduHeader) : ByteOrder :=
  match fromBytes h.packedDrep with
  | .ok order => order
  | .error _ => .little

def encode (h : PduHeader) : List UInt8 :=
  [h.rpcVers, h.rpcVersMinor, h.ptype.toUInt8, h.pfcFlags] ++ h.packedDrep.toList ++
    u16Bytes h.byteOrder h.fragLength ++ u16Bytes h.byteOrder h.authLength ++
    u32Bytes h.byteOrder h.callId

def decode (bytes : List UInt8) : Result PduHeader := do
  failIf (bytes.length < headerLen) (.invalidPdu "common header requires 16 bytes")
  let packedDrep : PackedDrep :=
    ⟨← index bytes 4, ← index bytes 5, ← index bytes 6, ← index bytes 7⟩
  let byteOrder ← mapErr (fromBytes packedDrep) .ndr
  let rpcVers ← index bytes 0
  let rpcVersMinor ← index bytes 1
  let ptype ← PduType.tryFrom (← index bytes 2)
  let pfcFlags ← index bytes 3
  let fragLength ← readU16 byteOrder bytes 8
  let authLength ← readU16 byteOrder bytes 10
  let callId ← readU32 byteOrder bytes 12
  failIf (rpcVers ≠ RPC_VERSION) (.invalidPdu "unsupported RPC major version")
  return { rpcVers, rpcVersMinor, ptype, pfcFlags, packedDrep, fragLength, authLength, callId }

end PduHeader

end Header

/-! ## The bodies -/

/-- `pdu::BindPdu`. -/
structure BindPdu where
  maxXmitFrag : UInt16
  maxRecvFrag : UInt16
  assocGroupId : UInt32
  presentationContextList : List UInt8
  deriving DecidableEq, Repr

namespace BindPdu

def encode (b : BindPdu) : List UInt8 :=
  u16Bytes .little b.maxXmitFrag ++ u16Bytes .little b.maxRecvFrag ++
    u32Bytes .little b.assocGroupId ++ b.presentationContextList

def decode (bytes : List UInt8) : Result BindPdu := do
  failIf (bytes.length < 8) (.invalidPdu "bind PDU body requires at least 8 bytes")
  let maxXmitFrag ← readU16 .little bytes 0
  let maxRecvFrag ← readU16 .little bytes 2
  let assocGroupId ← readU32 .little bytes 4
  let presentationContextList ← sliceFrom bytes 8
  return { maxXmitFrag, maxRecvFrag, assocGroupId, presentationContextList }

end BindPdu

section Request

variable [UuidCrate]

/-- `pdu::RequestPdu`. -/
structure RequestPdu where
  allocHint : UInt32
  ctxId : UInt16
  opnum : UInt16
  object : Option Uuid
  stubData : List UInt8
  deriving DecidableEq

namespace RequestPdu

def encode (r : RequestPdu) : List UInt8 :=
  u32Bytes .little r.allocHint ++ u16Bytes .little r.ctxId ++ u16Bytes .little r.opnum ++
    (match r.object with
      | some object => UuidCrate.asBytes object
      | none => []) ++
    r.stubData

def decode (bytes : List UInt8) (hasObject : Bool) : Result RequestPdu := do
  let objectLen := if hasObject then 16 else 0
  failIf (bytes.length < 8 + objectLen) (.invalidPdu "request PDU body is too short")
  let object ← if hasObject then do
      let uuid ← okOr (UuidCrate.fromSlice (← slice bytes 8 24))
        (.invalidPdu "request object UUID is invalid")
      pure (some uuid)
    else pure none
  let stubStart := 8 + objectLen
  let allocHint ← readU32 .little bytes 0
  let ctxId ← readU16 .little bytes 4
  let opnum ← readU16 .little bytes 6
  let stubData ← sliceFrom bytes stubStart
  return { allocHint, ctxId, opnum, object, stubData }

end RequestPdu

end Request

/-- `pdu::ResponsePdu`. -/
structure ResponsePdu where
  allocHint : UInt32
  ctxId : UInt16
  cancelCount : UInt8
  stubData : List UInt8
  deriving DecidableEq, Repr

namespace ResponsePdu

def encode (r : ResponsePdu) : List UInt8 :=
  u32Bytes .little r.allocHint ++ u16Bytes .little r.ctxId ++ [r.cancelCount, 0] ++ r.stubData

def decode (bytes : List UInt8) : Result ResponsePdu := do
  failIf (bytes.length < 8) (.invalidPdu "response PDU body requires at least 8 bytes")
  let allocHint ← readU32 .little bytes 0
  let ctxId ← readU16 .little bytes 4
  let cancelCount ← index bytes 6
  let stubData ← sliceFrom bytes 8
  return { allocHint, ctxId, cancelCount, stubData }

end ResponsePdu

/-- `pdu::FaultPdu`. -/
structure FaultPdu where
  allocHint : UInt32
  ctxId : UInt16
  cancelCount : UInt8
  status : UInt32
  stubData : List UInt8
  deriving DecidableEq, Repr

namespace FaultPdu

def encode (f : FaultPdu) : List UInt8 :=
  u32Bytes .little f.allocHint ++ u16Bytes .little f.ctxId ++ [f.cancelCount, 0] ++
    u32Bytes .little f.status ++ f.stubData

def decode (bytes : List UInt8) : Result FaultPdu := do
  failIf (bytes.length < 12) (.invalidPdu "fault PDU body requires at least 12 bytes")
  let allocHint ← readU32 .little bytes 0
  let ctxId ← readU16 .little bytes 4
  let cancelCount ← index bytes 6
  let status ← readU32 .little bytes 8
  let stubData ← sliceFrom bytes 12
  return { allocHint, ctxId, cancelCount, status, stubData }

end FaultPdu

/-! ## The packet -/

/-- `pdu::PduPacket`. -/
structure PduPacket where
  header : PduHeader
  body : List UInt8
  securityTrailer : Option SecurityTrailer
  authValue : List UInt8
  deriving DecidableEq, Repr

namespace PduPacket

def new (header : PduHeader) (body authValue : List UInt8) : PduPacket :=
  { header, body, securityTrailer := none, authValue }

def withSecurityTrailer (header : PduHeader) (body : List UInt8) (trailer : SecurityTrailer)
    (authValue : List UInt8) : PduPacket :=
  { header, body, securityTrailer := some trailer, authValue }

section

variable [DataRepresentation]

/-- `from_body_with_flags`: the length of the body is cast to `u16` and added
to the header's. -/
def fromBodyWithFlags (ptype : PduType) (callId : UInt32) (pfcFlags : UInt8) (body : List UInt8) :
    Result PduPacket := do
  let fragLength ← addU16 COMMON_HEADER_LEN (UInt16.ofNat body.length)
  return new { PduHeader.new ptype pfcFlags callId with fragLength } body []

def fromBody (ptype : PduType) (callId : UInt32) (body : List UInt8) : Result PduPacket :=
  fromBodyWithFlags ptype callId (PFC_FIRST_FRAG ||| PFC_LAST_FRAG) body

def fromBind (callId : UInt32) (bind : BindPdu) : Result PduPacket :=
  fromBody .bind callId bind.encode

def fromRequestWithFlags [UuidCrate] (callId : UInt32) (pfcFlags : UInt8) (request : RequestPdu) :
    Result PduPacket := do
  let header := PduHeader.new .request
    (pfcFlags ||| (request.object.map fun _ => PFC_OBJECT_UUID).getD 0) callId
  let body := request.encode
  let fragLength ← addU16 COMMON_HEADER_LEN (UInt16.ofNat body.length)
  return new { header with fragLength } body []

def fromRequest [UuidCrate] (callId : UInt32) (request : RequestPdu) : Result PduPacket :=
  fromRequestWithFlags callId (PFC_FIRST_FRAG ||| PFC_LAST_FRAG) request

def fromResponseWithFlags (callId : UInt32) (pfcFlags : UInt8) (response : ResponsePdu) :
    Result PduPacket :=
  fromBodyWithFlags .response callId pfcFlags response.encode

def fromResponse (callId : UInt32) (response : ResponsePdu) : Result PduPacket :=
  fromResponseWithFlags callId (PFC_FIRST_FRAG ||| PFC_LAST_FRAG) response

def fromFault (callId : UInt32) (fault : FaultPdu) : Result PduPacket :=
  fromBody .fault callId fault.encode

/-- The bytes between the body and the auth value. -/
def trailerBytes : Option SecurityTrailer → List UInt8
  | some trailer => List.replicate trailer.authPadLength.toNat 0 ++ trailer.encode
  | none => []

def encode (p : PduPacket) : Result (List UInt8) := do
  let bodyLen := p.body.length
  let authLen := p.authValue.length
  failIf (authLen > 65535) (.invalidPdu "auth value is too large")
  failIf (authLen > 0 ∧ p.securityTrailer.isNone)
    (.invalidPdu "auth value requires security trailer")
  let (paddingLen, trailerLen) :=
    (p.securityTrailer.map fun t => (t.authPadLength.toNat, SecurityTrailer.LEN)).getD (0, 0)
  let fragLength := headerLen + bodyLen + paddingLen + trailerLen + authLen
  failIf (fragLength > 65535) (.invalidPdu "fragment is too large")
  let header := { p.header with
    fragLength := UInt16.ofNat fragLength, authLength := UInt16.ofNat authLen }
  return header.encode ++ p.body ++ trailerBytes p.securityTrailer ++ p.authValue

/-- The end of the body, and the security trailer of a fragment with an auth
value. -/
def decodeTrailer (bytes : List UInt8) (fragLength authLength : Nat) :
    Result (Nat × Option SecurityTrailer) :=
  if authLength = 0 then return (fragLength, none)
  else do
    let authStart ← subUsize fragLength authLength
    let trailerStart ← okOr (checkedSub authStart SecurityTrailer.LEN)
      (.invalidPdu "auth value requires security trailer")
    failIf (trailerStart < headerLen) (.invalidPdu "auth value requires security trailer")
    let trailer ← SecurityTrailer.decode (← slice bytes trailerStart authStart)
    let bodyEnd ← okOr (checkedSub trailerStart trailer.authPadLength.toNat)
      (.invalidPdu "auth padding exceeds fragment body")
    failIf (bodyEnd < headerLen) (.invalidPdu "auth padding exceeds fragment body")
    return (bodyEnd, some trailer)

def decode (bytes : List UInt8) : Result PduPacket := do
  let header ← PduHeader.decode bytes
  let fragLength := header.fragLength.toNat
  let authLength := header.authLength.toNat
  failIf (fragLength < headerLen) (.invalidPdu "fragment length is smaller than common header")
  failIf (bytes.length ≠ fragLength) (.invalidPdu "fragment length does not match input length")
  let contentLength ← subUsize fragLength headerLen
  failIf (authLength > contentLength) (.invalidPdu "auth length exceeds fragment body")
  let (bodyEnd, securityTrailer) ← decodeTrailer bytes fragLength authLength
  let body ← slice bytes headerLen bodyEnd
  let authValue ← slice bytes (← subUsize fragLength authLength) fragLength
  return { header, body, securityTrailer, authValue }

end

end PduPacket

end Rpce
