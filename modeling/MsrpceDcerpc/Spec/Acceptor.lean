import MsrpceDcerpc.Spec.Server

/-!
# A server that authenticates its clients

An `Acceptor` is the server's side of an authentication mechanism, whichever it
is: it may answer the token of a Bind with a challenge, gets the token of an
AUTH3, and admits a client or does not. An `AuthConnection` is a connection to a
server with an acceptor: the server ignores the requests of a client that is not
admitted.

What the two sides of the mechanism do in a bind is an `Exchange`, which knows
of no PDUs.
-/

namespace Rpce

open Rust Endian

variable {A σ α : Type}

/-- What it writes into the trailers of its challenges is free. -/
structure Acceptor (α : Type) where
  trailer : SecurityTrailer
  padding : List UInt8
  length_padding : padding.length = trailer.authPadLength.toNat
  challenge : α → List UInt8 → List UInt8 × α
  finish : α → List UInt8 → α
  admits : α → Bool

/-- A provider makes its token for `target`, an acceptor may answer with a
challenge, and the provider may answer that. Left are the provider and the
acceptor after it. -/
inductive Exchange [RpcAuthProvider A] (acceptor : Acceptor α) (target : String) (a : A) (s : α) :
    (token challenge answer : List UInt8) → A → α → Prop where
  | unchallenged {token a' s'} : RpcAuthProvider.initContext a target = (.ok token, a') →
      (RpcAuthProvider.authLevel a').Supported → acceptor.challenge s token = ([], s') →
      Exchange acceptor target a s token [] [] a' s'
  | unanswered {token challenge a' a'' s'} :
      RpcAuthProvider.initContext a target = (.ok token, a') →
      (RpcAuthProvider.authLevel a').Supported → acceptor.challenge s token = (challenge, s') →
      challenge ≠ [] → RpcAuthProvider.step a' challenge = (.ok [], a'') →
      (RpcAuthProvider.authLevel a'').Supported → Exchange acceptor target a s token challenge [] a'' s'
  | answered {token challenge answer a' a'' s'} :
      RpcAuthProvider.initContext a target = (.ok token, a') →
      (RpcAuthProvider.authLevel a').Supported → acceptor.challenge s token = (challenge, s') →
      challenge ≠ [] → RpcAuthProvider.step a' challenge = (.ok answer, a'') → answer ≠ [] →
      (RpcAuthProvider.authLevel a'').Supported →
      Exchange acceptor target a s token challenge answer a'' (acceptor.finish s' answer)

variable [DataRepresentation] [UuidCrate]

/-- A connection to `server`, whose acceptor has the state `context`. -/
structure AuthConnection (server : Server σ) (acceptor : Acceptor α) where
  connection : Connection server
  context : α

namespace AuthConnection

variable {server : Server σ} {acceptor : Acceptor α}

def start (server : Server σ) (acceptor : Acceptor α) (state : σ) (context : α) :
    AuthConnection server acceptor := { connection := .start server state, context }

variable (server acceptor) in
/-- The bind ack for `proposed`, with a security trailer if there is a challenge. -/
def ack (callId : UInt32) (proposed : List PresentationContext) (challenge : List UInt8) : List UInt8 :=
  let body := Wire.bindAck .little (server.ack proposed) (server.filler proposed)
  if challenge = [] then
    Wire.pdu .little server.drep server.ackVersionMinor .bindAck server.ackFlags callId body
  else
    Wire.authPdu .little server.drep server.ackVersionMinor .bindAck server.ackFlags callId body
      acceptor.padding acceptor.trailer challenge

/-- The server got a PDU. -/
def receive (t : AuthConnection server acceptor) (bytes : List UInt8) : AuthConnection server acceptor :=
  match PduPacket.decode bytes with
  | .error _ => t
  | .ok packet =>
    match packet.header.ptype with
    | .bind =>
      match BindPdu.decode packet.body >>= BindPdu.contextList with
      | .error _ => t
      | .ok list =>
        let (challenge, context) := acceptor.challenge t.context packet.authValue
        let ack := ack server acceptor packet.header.callId list.contexts challenge
        { connection := { t.connection with outgoing := t.connection.outgoing ++ [ack] }, context }
    | .auth3 => { t with context := acceptor.finish t.context packet.authValue }
    | _ => if acceptor.admits t.context then { t with connection := t.connection.receive bytes } else t

instance : RpcTransport (AuthConnection server acceptor) where
  sendPdu t bytes := (.ok (), t.receive bytes)
  recvPdu t :=
    let (result, connection) := RpcTransport.recvPdu t.connection
    (result, { t with connection })

end AuthConnection

end Rpce
