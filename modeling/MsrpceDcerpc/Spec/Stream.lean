import MsrpceDcerpc.Lib.Simulation
import MsrpceDcerpc.Model.NcacnNp
import MsrpceDcerpc.Spec.Session

/-!
# Byte streams and messages

A pipe as a byte stream: what it will be read (`input`) and what becomes of
what is written to it (`output`), with the laws `ReadsNext`, `ReadsAll` and
`Duplex`. Over against it stands `MessageTransport`, a transport that delivers
the PDUs of a queue.

Two transports of which the first does what the second does (`TransportSim`)
have clients that do the same (`ClientSim`), as long as the second has
something to deliver (`Starved`).
-/

namespace Rpce

open Rust Eff

/-! ## Pipes -/

section Pipes

variable {P W : Type} [NamedPipe P]

/-- `read_exact` fails, or reads the next bytes of the input. -/
structure ReadsNext (input : P → List UInt8) : Prop where
  next : ∀ {p n bytes p'}, NamedPipe.readExact p n = (.ok bytes, p') →
    input p = bytes.toList ++ input p'

/-- It does not fail while there is enough of the input. -/
structure ReadsAll (input : P → List UInt8) : Prop extends ReadsNext input where
  available : ∀ {p n}, n ≤ (input p).length → ∃ bytes p', NamedPipe.readExact p n = (.ok bytes, p')

/-- What bytes are written to. -/
class Writer (W : Type) where
  write : W → List UInt8 → Except Error Unit × W

/-- Reading and writing have nothing to do with each other. -/
structure Duplex [Writer W] (input : P → List UInt8) (output : P → W) : Prop extends
    ReadsAll input where
  read_output : ∀ p n, output (NamedPipe.readExact p n).2 = output p
  write_result : ∀ p bytes, (NamedPipe.writeAll p bytes).1 = (Writer.write (output p) bytes).1
  write_output : ∀ p bytes, output (NamedPipe.writeAll p bytes).2 = (Writer.write (output p) bytes).2
  write_input : ∀ p bytes, input (NamedPipe.writeAll p bytes).2 = input p

end Pipes

/-! ## Messages -/

/-- A transport that delivers the PDUs of a queue, as they are. -/
structure MessageTransport (W : Type) where
  incoming : List (List UInt8)
  out : W

instance {W : Type} [Writer W] : RpcTransport (MessageTransport W) where
  sendPdu m bytes :=
    let (result, out) := Writer.write m.out bytes
    (result, { m with out })
  recvPdu m :=
    match m.incoming with
    | [] => (.error (.transport "no queued PDU available"), m)
    | bytes :: incoming => (.ok bytes, { m with incoming })

/-! ## What is written -/

section Written

variable {A : Type}

/-- What a client that did `trace` wrote: the PDUs it sent, and of one that was
not sent the beginning. -/
inductive Written : List (Event A) → List UInt8 → Prop where
  | nil : Written [] []
  | whole {trace out bytes authProvider} : Written trace out →
      Written (trace ++ [.sendPdu bytes authProvider (.ok ())]) (out ++ bytes)
  | cut {trace out bytes written authProvider e} : Written trace out → written <+: bytes →
      Written (trace ++ [.sendPdu bytes authProvider (.error e)]) (out ++ written)
  | other {trace out event} : Written trace out → sent [event] = [] → Written (trace ++ [event]) out

/-- No PDU was refused. -/
def AllSent (trace : List (Event A)) : Prop :=
  ∀ bytes authProvider e, .sendPdu bytes authProvider (.error e) ∉ trace

end Written

/-! ## Clients over two transports -/

section Clients

variable {T M A : Type}

/-- The transports of `T` send what those of `M` send, and deliver what these
deliver. -/
structure TransportSim [RpcTransport T] [RpcTransport M] (R : T → M → Prop) : Prop where
  sendPdu : ∀ {t m} (bytes), R t m →
    (RpcTransport.sendPdu t bytes).1 = (RpcTransport.sendPdu m bytes).1 ∧
      R (RpcTransport.sendPdu t bytes).2 (RpcTransport.sendPdu m bytes).2
  recvPdu : ∀ {t m bytes m'}, R t m → RpcTransport.recvPdu m = (.ok bytes, m') →
    ∃ t', RpcTransport.recvPdu t = (.ok bytes, t') ∧ R t' m'

/-- A packet with the version and the DREP of the crate. -/
def PduPacket.Built [DataRepresentation] (packet : PduPacket) : Prop :=
  packet.header.rpcVers = RPC_VERSION ∧ packet.header.packedDrep = DataRepresentation.windowsDefault

/-- The bytes of such a packet: all that a client sends are. -/
def BuiltPdu [DataRepresentation] (bytes : List UInt8) : Prop :=
  ∃ packet : PduPacket, packet.Built ∧ packet.encode = .ok bytes

/-- The same as `TransportSim`, for what a client sends. -/
structure ClientTransportSim [DataRepresentation] [RpcTransport T] [RpcTransport M] (R : T → M → Prop) :
    Prop where
  sendPdu : ∀ {t m bytes}, BuiltPdu bytes → R t m →
    (RpcTransport.sendPdu t bytes).1 = (RpcTransport.sendPdu m bytes).1 ∧
      R (RpcTransport.sendPdu t bytes).2 (RpcTransport.sendPdu m bytes).2
  recvPdu : ∀ {t m bytes m'}, R t m → RpcTransport.recvPdu m = (.ok bytes, m') →
    ∃ t', RpcTransport.recvPdu t = (.ok bytes, t') ∧ R t' m'

structure WorldSim (R : T → M → Prop) (w : World T A) (v : World M A) : Prop where
  transport : R w.transport v.transport
  authProvider : w.authProvider = v.authProvider
  trace : w.trace = v.trace

structure ClientSim (R : T → M → Prop) (c : RpcClient T A) (d : RpcClient M A) : Prop where
  toWorld : WorldSim R c.toWorld d.toWorld
  contextId : c.contextId = d.contextId
  callId : c.callId = d.callId
  maxXmitFrag : c.maxXmitFrag = d.maxXmitFrag

/-- There was nothing to deliver when the client wanted a PDU. -/
def Starved (trace : List (Event A)) : Prop := ∃ e, .recvPdu (.error e) ∈ trace

end Clients

end Rpce
