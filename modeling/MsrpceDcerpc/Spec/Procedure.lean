import MsrpceDcerpc.Lib.Program
import MsrpceDcerpc.Spec.Server

/-!
# Remote procedures

What an interface is for: its procedures are called as if they were where the
client is. `callLocally` is such a call, with no connection and no bytes in it,
and `Invokes` is one of the client. A server has the procedures if its answer to
a request that was serialized for one of them carries what the procedure returns
(`Server.Implements`).
-/

namespace Rpce

open Rust

/-- The procedures of an interface, with the types that the client passes and
gets back. -/
structure Procedures where
  Op : Type
  opnum : Op → UInt16
  Req : Op → Type
  Resp : Op → Type
  serialize : ∀ op, NdrSerialize (Req op)
  deserialize : ∀ op, NdrDeserialize (Resp op)

attribute [instance] Procedures.serialize Procedures.deserialize

namespace Procedures

variable (P : Procedures) {T A σ : Type}

/-- A procedure, and what is passed to it. -/
abbrev Invocation : Type := (op : P.Op) × P.Req op

/-- What `call` returns. -/
abbrev Returned (k : P.Invocation) : Type := Result (P.Resp k.1)

/-- A program that calls procedures, and may do with the errors what it does
with the responses. -/
abbrev Caller (α : Type) : Type := Program P.Invocation P.Returned α

/-- What the procedures do: a procedure returns a response, or fails with a
status. -/
abbrev Handlers (σ : Type) : Type := (op : P.Op) → P.Req op → σ → Except UInt32 (P.Resp op) × σ

variable {P}

/-- The call of a procedure where it is. It is not called with a value that has
no NDR. -/
def callLocally (handlers : P.Handlers σ) (k : P.Invocation) (s : σ) : P.Returned k × σ :=
  match NdrSerialize.serialize Ndr.new k.2 with
  | .error text => (.error (.err (.ndr text)), s)
  | .ok _ =>
    let (returned, s') := handlers k.1 k.2 s
    (mapErr returned Error.fault, s')

/-- The client `c` calls a procedure, and the call returns. -/
structure Invokes [DataRepresentation] [UuidCrate] [RpcTransport T] [RpcAuthProvider A]
    (c : RpcClient T A) (k : P.Invocation) (returned : P.Returned k) (c' : RpcClient T A) : Prop where
  exec : ∃ fuel, (RpcClient.call fuel (P.opnum k.1) k.2).exec c = (returned, c')
  returns : returned ≠ .error .fuel

end Procedures

/-- An answer carries what a procedure returned. -/
inductive Answer.Carries {Resp : Type} [NdrDeserialize Resp] : Answer → Except UInt32 Resp → Prop where
  | response {r resp} : NdrDeserialize.deserialize Ndr.new r.stub = .ok resp →
      Carries (.response r) (.ok resp)
  | fault (versionMinor pfcFlags f reserved fits) :
      Carries (.fault versionMinor pfcFlags f reserved fits) (.error f.status)

/-- The server has procedures that do what `handlers` say. Of other requests
nothing is said. -/
structure Server.Implements [DataRepresentation] [UuidCrate] {σ : Type} {P : Procedures}
    (server : Server σ) (handlers : P.Handlers σ) : Prop where
  answer : ∀ {op request stub} (ctxId s), NdrSerialize.serialize Ndr.new request = .ok stub →
    (server.reply s ctxId (P.opnum op) stub).1.Carries (handlers op request s).1
  state : ∀ {op request stub} (ctxId s), NdrSerialize.serialize Ndr.new request = .ok stub →
    (server.reply s ctxId (P.opnum op) stub).2 = (handlers op request s).2

end Rpce
