import MsrpceDcerpc.Spec.Server
import MsrpceDcerpc.Proof.Framing

/-!
# A conforming server on a byte stream

The other end of a byte stream: a `Peer` puts the bytes it gets together to
PDUs, in however many pieces they come, and hands these to a `Connection`. What
the connection has sent can be read as bytes.
-/

namespace Rpce

open StdIo

variable [DataRepresentation] [UuidCrate] {σ : Type}

/-- A server at the other end: its connection with all that was ever sent on
it, the beginning of a PDU it has not all of, and how many bytes were read of
what it sent. -/
@[ext]
structure Peer (server : Server σ) where
  connection : Connection server
  pending : List UInt8
  read : Nat
  pending_next : pduFraming.next pending = none

namespace Peer

variable {server : Server σ}

def start (server : Server σ) (state : σ) : Peer server :=
  { connection := Connection.start server state, pending := [], read := 0,
    pending_next := Framing.next_nil }

/-- The bytes that were sent and not read. -/
def unread (p : Peer server) : List UInt8 := p.connection.outgoing.flatten.drop p.read

def skip (p : Peer server) (n : Nat) : Peer server := { p with read := p.read + n }

/-- The peer gets bytes: the PDUs that are complete then go to the connection. -/
def put (p : Peer server) (bytes : List UInt8) : Peer server :=
  { connection := (pduFraming.frames (p.pending ++ bytes)).1.foldl Connection.receive p.connection
    pending := (pduFraming.frames (p.pending ++ bytes)).2
    read := p.read
    pending_next := Framing.next_rest _ }

instance : Endpoint (Peer server) where
  unread := unread
  skip := skip
  put := put
  unread_skip p n := by rw [unread, unread, skip, List.drop_drop]
  skip_zero _ := rfl
  skip_skip p m n := by rw [skip, skip, skip, Nat.add_assoc]
  put_nil p := by
    rw [put, Peer.ext_iff]
    dsimp only
    rw [List.append_nil, Framing.frames_of_none p.pending_next]
    exact ⟨rfl, rfl, rfl⟩
  put_put p a b := by
    simp only [put, Peer.mk.injEq, and_true]
    rw [← List.append_assoc p.pending a b, Framing.frames_append (p.pending ++ a) b, List.foldl_append]
    exact ⟨rfl, rfl⟩

end Peer

/-- The ack of a Bind without a context, of which a `Server` says nothing, fits
into a PDU as the others do. -/
def Server.AcksFit (server : Server σ) : Prop :=
  16 + (Wire.bindAck .little (server.ack []) (server.filler [])).length ≤ 65535

theorem Server.AcksFit.bindAck {server : Server σ} (h : server.AcksFit)
    {proposed : List PresentationContext} (hlen : proposed.length ≤ 255) :
    16 + (Wire.bindAck .little (server.ack proposed) (server.filler proposed)).length ≤ 65535 := by
  cases proposed with
  | nil => exact h
  | cons p proposed => exact (server.accepts _ (List.cons_ne_nil p proposed) hlen).fits

end Rpce
