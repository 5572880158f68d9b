import MsrpceDcerpc.Model.Pdu
import MsrpceDcerpc.Model.Syntax

/-!
# Bind negotiation (`bind.rs`)

Presentation contexts and their list, the bind ack with its results, and the
selection of the accepted context.
-/

namespace Rpce

open Rust Endian

variable [UuidCrate]

/-! ## Presentation contexts -/

/-- `bind::PresentationContext`. -/
structure PresentationContext where
  contextId : UInt16
  abstractSyntax : SyntaxId
  transferSyntaxes : List SyntaxId
  deriving DecidableEq

namespace PresentationContext

def new (contextId : UInt16) (abstractSyntax : SyntaxId) (transferSyntaxes : List TransferSyntax) :
    PresentationContext :=
  { contextId, abstractSyntax, transferSyntaxes := transferSyntaxes.map TransferSyntax.syntaxId }

def bindTimeFeatureNegotiation [UuidNumbers] (contextId : UInt16) (abstractSyntax : SyntaxId)
    (bitmask : UInt16) : PresentationContext :=
  { contextId, abstractSyntax, transferSyntaxes := [.bindTimeFeatureNegotiation bitmask] }

def encode (c : PresentationContext) : Result (List UInt8) := do
  failIf (c.transferSyntaxes.length > 255) (.invalidPdu "too many transfer syntaxes")
  return u16Bytes .little c.contextId ++ [UInt8.ofNat c.transferSyntaxes.length, 0] ++
    c.abstractSyntax.encode ++ c.transferSyntaxes.flatMap SyntaxId.encode

/-- The loop over the transfer syntaxes: `count` of them, from `offset` on. -/
def decodeSyntaxes (bytes : List UInt8) : Nat → Nat → Result (List SyntaxId)
  | 0, _ => pure []
  | count + 1, offset => do
    let s ← SyntaxId.decode (← slice bytes offset (offset + 20))
    let rest ← decodeSyntaxes bytes count (offset + 20)
    return s :: rest

/-- The context at the start of `bytes`, and its length. -/
def decode (bytes : List UInt8) : Result (PresentationContext × Nat) := do
  failIf (bytes.length < 24) (.invalidPdu "presentation context requires at least 24 bytes")
  let contextId ← readU16 .little bytes 0
  let transferCount := (← index bytes 2).toNat
  let needed := 24 + transferCount * 20
  failIf (bytes.length < needed) (.invalidPdu "presentation context is truncated")
  let abstractSyntax ← SyntaxId.decode (← slice bytes 4 24)
  let transferSyntaxes ← decodeSyntaxes bytes transferCount 24
  return ({ contextId, abstractSyntax, transferSyntaxes }, needed)

end PresentationContext

/-- `bind::PresentationContextList`. -/
structure PresentationContextList where
  contexts : List PresentationContext
  deriving DecidableEq

namespace PresentationContextList

/-- The loop over the contexts of `encode`. -/
def encodeContexts : List PresentationContext → Result (List UInt8)
  | [] => pure []
  | context :: contexts => do
    let bytes ← expect "presentation context count was prevalidated" context.encode
    let rest ← encodeContexts contexts
    return bytes ++ rest

def encode (l : PresentationContextList) : Result (List UInt8) := do
  let contexts ← encodeContexts l.contexts
  return [UInt8.ofNat l.contexts.length, 0] ++ u16Bytes .little 0 ++ contexts

/-- The loop over the contexts of `decode`: `count` of them, from `offset` on,
with the offset after the last. -/
def decodeContexts (bytes : List UInt8) : Nat → Nat → Result (List PresentationContext × Nat)
  | 0, offset => pure ([], offset)
  | count + 1, offset => do
    let (context, len) ← PresentationContext.decode (← sliceFrom bytes offset)
    let (rest, stop) ← decodeContexts bytes count (offset + len)
    return (context :: rest, stop)

def decode (bytes : List UInt8) : Result PresentationContextList := do
  failIf (bytes.length < 4) (.invalidPdu "presentation context list requires at least 4 bytes")
  let count := (← index bytes 0).toNat
  let (contexts, offset) ← decodeContexts bytes count 4
  failIf (offset ≠ bytes.length) (.invalidPdu "presentation context list has trailing bytes")
  return { contexts }

end PresentationContextList

namespace BindPdu

def withContexts (maxXmitFrag maxRecvFrag : UInt16) (assocGroupId : UInt32)
    (contexts : List PresentationContext) : Result BindPdu := do
  let list ← PresentationContextList.encode { contexts }
  return { maxXmitFrag, maxRecvFrag, assocGroupId, presentationContextList := list }

def contextList (b : BindPdu) : Result PresentationContextList :=
  PresentationContextList.decode b.presentationContextList

end BindPdu

/-! ## The answers to a bind -/

/-- `bind::PresentationResult`. -/
structure PresentationResult where
  result : PresentationResultCode
  reason : PresentationRejectReason
  transferSyntax : SyntaxId
  deriving DecidableEq

def PresentationResult.decode (bytes : List UInt8) : Result PresentationResult := do
  failIf (bytes.length < 24) (.invalidPdu "presentation result requires 24 bytes")
  let result ← PresentationResultCode.tryFrom (← readU16 .little bytes 0)
  let reason ← PresentationRejectReason.tryFrom (← readU16 .little bytes 2)
  let transferSyntax ← SyntaxId.decode (← slice bytes 4 24)
  return { result, reason, transferSyntax }

/-- `bind::AcceptedContext`. -/
structure AcceptedContext where
  contextId : UInt16
  transferSyntax : SyntaxId
  deriving DecidableEq

/-- `bind::BindAckPdu`. -/
structure BindAckPdu where
  maxXmitFrag : UInt16
  maxRecvFrag : UInt16
  assocGroupId : UInt32
  secondaryAddr : List UInt8
  results : List PresentationResult
  deriving DecidableEq

namespace BindAckPdu

/-- `while !offset.is_multiple_of(4) { offset += 1 }`, for at most `fuel`
rounds; three are enough. -/
def align4 : Nat → Nat → Nat
  | 0, offset => offset
  | fuel + 1, offset => if offset % 4 = 0 then offset else align4 fuel (offset + 1)

/-- The loop over the results: `count` of them, from `offset` on, with the
offset after the last. -/
def decodeResults (bytes : List UInt8) : Nat → Nat → Result (List PresentationResult × Nat)
  | 0, offset => pure ([], offset)
  | count + 1, offset => do
    failIf (bytes.length < offset + 24) (.invalidPdu "bind ack result list is truncated")
    let result ← PresentationResult.decode (← slice bytes offset (offset + 24))
    let (rest, stop) ← decodeResults bytes count (offset + 24)
    return (result :: rest, stop)

def decode (bytes : List UInt8) : Result BindAckPdu := do
  failIf (bytes.length < 12) (.invalidPdu "bind ack body requires at least 12 bytes")
  let maxXmitFrag ← readU16 .little bytes 0
  let maxRecvFrag ← readU16 .little bytes 2
  let assocGroupId ← readU32 .little bytes 4
  let secondaryAddrLen := (← readU16 .little bytes 8).toNat
  let secondaryAddrStart := 10
  let secondaryAddrEnd := secondaryAddrStart + secondaryAddrLen
  failIf (bytes.length < secondaryAddrEnd) (.invalidPdu "bind ack secondary address is truncated")
  let offset := align4 3 secondaryAddrEnd
  failIf (bytes.length < offset + 4) (.invalidPdu "bind ack result list is missing")
  let resultCount := (← index bytes offset).toNat
  let (results, stop) ← decodeResults bytes resultCount (offset + 4)
  failIf (stop ≠ bytes.length) (.invalidPdu "bind ack body has trailing bytes")
  let secondaryAddr ← slice bytes secondaryAddrStart secondaryAddrEnd
  return { maxXmitFrag, maxRecvFrag, assocGroupId, secondaryAddr, results }

/-- The loop over the results of `accepted_context`, from the result at
`index` on. -/
def acceptedLoop (proposed : List PresentationContext) :
    Nat → Option Error → List PresentationResult → Result AcceptedContext
  | _, some err, [] => .error (.err err)
  | _, none, [] => .error (.err (.invalidPdu "bind ack has no presentation results"))
  | index, firstRejection, result :: results =>
    match proposed[index]? with
    | none => .error (.err (.invalidPdu "bind ack result has no matching proposed context"))
    | some context =>
      if result.result = .acceptance then
        .ok { contextId := context.contextId, transferSyntax := result.transferSyntax }
      else if result.result ≠ .negotiateAck then
        acceptedLoop proposed (index + 1)
          (firstRejection.or (some (.presentationContextRejected context.contextId result.result
            result.reason))) results
      else acceptedLoop proposed (index + 1) firstRejection results

def acceptedContext (ack : BindAckPdu) (proposed : List PresentationContext) :
    Result AcceptedContext :=
  acceptedLoop proposed 0 none ack.results

end BindAckPdu

/-- `bind::BindNakPdu`. -/
structure BindNakPdu where
  rejectReason : RejectReason
  deriving DecidableEq, Repr

def BindNakPdu.decode (bytes : List UInt8) : Result BindNakPdu := do
  failIf (bytes.length < 2) (.invalidPdu "bind nak body requires a reject reason")
  let rejectReason ← RejectReason.tryFrom (← readU16 .little bytes 0)
  return { rejectReason }

end Rpce
