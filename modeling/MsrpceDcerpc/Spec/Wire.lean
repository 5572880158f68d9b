import MsrpceDcerpc.Model.Bind

/-!
# The wire forms

What the protocol says the bytes of a PDU are, in the byte order `o` of its
sender, with the reserved and padding bytes the receiver ignores as
parameters. The decoders of `pdu.rs` and `bind.rs` are compared with these.
-/

namespace Rpce.Wire

open Rust Endian

variable (o : ByteOrder)

/-- A PDU in one fragment, without a security trailer. -/
def pdu (drep : PackedDrep) (versionMinor : UInt8) (ptype : PduType) (pfcFlags : UInt8)
    (callId : UInt32) (body : List UInt8) : List UInt8 :=
  [5, versionMinor, ptype.toUInt8, pfcFlags] ++ drep.toList ++
    u16Bytes o (UInt16.ofNat (16 + body.length)) ++ u16Bytes o 0 ++ u32Bytes o callId ++ body

/-- A PDU in one fragment, with a security trailer. -/
def authPdu (drep : PackedDrep) (versionMinor : UInt8) (ptype : PduType) (pfcFlags : UInt8)
    (callId : UInt32) (body padding : List UInt8) (trailer : SecurityTrailer)
    (authValue : List UInt8) : List UInt8 :=
  [5, versionMinor, ptype.toUInt8, pfcFlags] ++ drep.toList ++
    u16Bytes o (UInt16.ofNat (24 + body.length + padding.length + authValue.length)) ++
    u16Bytes o (UInt16.ofNat authValue.length) ++ u32Bytes o callId ++ body ++ padding ++
    trailer.encode ++ authValue

def response (r : ResponsePdu) (reserved : UInt8) : List UInt8 :=
  u32Bytes o r.allocHint ++ u16Bytes o r.ctxId ++ [r.cancelCount, reserved] ++ r.stubData

def fault (f : FaultPdu) (reserved : UInt8) : List UInt8 :=
  u32Bytes o f.allocHint ++ u16Bytes o f.ctxId ++ [f.cancelCount, reserved] ++
    u32Bytes o f.status ++ f.stubData

section Bind

variable [UuidCrate]

/-- The three integer fields of a UUID are in the order of the sender. -/
def uuid (u : Uuid) : List UInt8 :=
  match o with
  | .little => UuidCrate.toBytesLe u
  | .big => UuidCrate.asBytes u

def syntaxId (s : SyntaxId) : List UInt8 := uuid o s.uuid ++ u32Bytes o s.version

def result (r : PresentationResult) : List UInt8 :=
  u16Bytes o r.result.toUInt16 ++ u16Bytes o r.reason.toUInt16 ++ syntaxId o r.transferSyntax

/-- The bytes of a bind ack that carry nothing: those before the result list,
which starts at a multiple of 4, and the three after its count. -/
structure AckFiller (ack : BindAckPdu) where
  pad : List UInt8
  reserved : List UInt8
  pad_lt : pad.length < 4
  aligned : (10 + ack.secondaryAddr.length + pad.length) % 4 = 0
  length_reserved : reserved.length = 3

/-- The lengths the counters of a bind ack can count. -/
structure Countable (ack : BindAckPdu) : Prop where
  secondaryAddr : ack.secondaryAddr.length ≤ 65535
  results : ack.results.length ≤ 255

def bindAck (ack : BindAckPdu) (filler : AckFiller ack) : List UInt8 :=
  u16Bytes o ack.maxXmitFrag ++ u16Bytes o ack.maxRecvFrag ++ u32Bytes o ack.assocGroupId ++
    u16Bytes o (UInt16.ofNat ack.secondaryAddr.length) ++ ack.secondaryAddr ++ filler.pad ++
    [UInt8.ofNat ack.results.length] ++ filler.reserved ++ ack.results.flatMap (result o)

/-- A presentation context, with its reserved byte. -/
def context (c : PresentationContext) (reserved : UInt8) : List UInt8 :=
  u16Bytes o c.contextId ++ [UInt8.ofNat c.transferSyntaxes.length, reserved] ++
    syntaxId o c.abstractSyntax ++ c.transferSyntaxes.flatMap (syntaxId o)

/-- A Bind, whose list of contexts, each with its reserved byte, has three reserved
bytes after its count. -/
def bind (maxXmitFrag maxRecvFrag : UInt16) (assocGroupId : UInt32) (r₀ r₁ r₂ : UInt8)
    (contexts : List (PresentationContext × UInt8)) : List UInt8 :=
  u16Bytes o maxXmitFrag ++ u16Bytes o maxRecvFrag ++ u32Bytes o assocGroupId ++
    [UInt8.ofNat contexts.length, r₀, r₁, r₂] ++
    contexts.flatMap fun (c, reserved) => context o c reserved

/-- A fragment of a request, with the object if there is one. -/
def request (r : RequestPdu) : List UInt8 :=
  u32Bytes o r.allocHint ++ u16Bytes o r.ctxId ++ u16Bytes o r.opnum ++
    (r.object.map (uuid o)).getD [] ++ r.stubData

end Bind

end Rpce.Wire
