import MsrpceDcerpc.Lib.StdIo
import MsrpceDcerpc.Lib.Text
import MsrpceDcerpc.Model.Pdu

/-!
# The transport over a named pipe (`ncacn_np.rs`)

`NcacnNpEndpoint`, the server and the pipe of a path (`Proof/Endpoint.lean`),
and `NcacnNpTransport` over any `NamedPipe`: a PDU is written as it is, and
read in two steps, its header and then as many bytes as the header says. That
`recvPdu` returns, and so is the method of a transport, is proved in
`Proof/Stream.lean`. `StdIoNamedPipe` is the pipe that an object with the
traits of `std::io` makes.
-/

namespace Rpce

open Rust

/-- `ncacn_np::NcacnNpEndpoint`. -/
structure NcacnNpEndpoint where
  server : String
  pipe : String
  deriving DecidableEq, Repr

namespace NcacnNpEndpoint

def invalidEndpoint : Error := .transport "ncacn_np endpoint must be \\\\server\\pipe\\name"

def parse (value : String) : Result NcacnNpEndpoint := do
  let rest ← okOr (stripPrefix value "\\\\") invalidEndpoint
  let (server, path) ← okOr (splitOnce rest '\\') invalidEndpoint
  let pipe ← okOr (stripPrefix path "pipe\\") invalidEndpoint
  failIf (server = "" ∨ pipe = "" ∨ '\\' ∈ pipe.toList) invalidEndpoint
  return { server, pipe }

def ipcShare (e : NcacnNpEndpoint) : String := "\\\\" ++ e.server ++ "\\IPC$"

def pipePath (e : NcacnNpEndpoint) : String := "\\pipe\\" ++ e.pipe

end NcacnNpEndpoint

/-- `ncacn_np::NamedPipe`. `read_exact` fills a buffer, whose length it cannot
change. -/
class NamedPipe (P : Type) where
  readExact : P → (n : Nat) → Except Error (Vector UInt8 n) × P
  writeAll : P → List UInt8 → Except Error Unit × P

/-- `ncacn_np::StdIoNamedPipe`. -/
structure StdIoNamedPipe (T : Type) where
  inner : T

namespace StdIoNamedPipe

variable {T : Type} [StdIo.Read T] [StdIo.Write T]

theorem size_toArray {n : Nat} (bytes : { bytes : List UInt8 // bytes.length = n }) :
    bytes.val.toArray.size = n := bytes.property

def readExact (p : StdIoNamedPipe T) (n : Nat) : Except Error (Vector UInt8 n) × StdIoNamedPipe T :=
  match StdIo.readExact p.inner n with
  | (.ok bytes, inner) => (.ok ⟨bytes.val.toArray, size_toArray bytes⟩, { inner })
  | (.error err, inner) => (.error (.transport ("named pipe read failed: " ++ err.text)), { inner })

/-- What was written is flushed. -/
def writeAll (p : StdIoNamedPipe T) (bytes : List UInt8) : Except Error Unit × StdIoNamedPipe T :=
  match StdIo.writeAll p.inner bytes with
  | (.error err, inner) => (.error (.transport ("named pipe write failed: " ++ err.text)), { inner })
  | (.ok (), inner) =>
    match StdIo.Write.flush inner with
    | (.error err, inner) => (.error (.transport ("named pipe flush failed: " ++ err.text)), { inner })
    | (.ok (), inner) => (.ok (), { inner })

instance : NamedPipe (StdIoNamedPipe T) := { readExact, writeAll }

end StdIoNamedPipe

/-- `ncacn_np::NcacnNpTransport`. -/
structure NcacnNpTransport (P : Type) where
  pipe : P

namespace NcacnNpTransport

variable {P : Type} [NamedPipe P]

def sendPdu (t : NcacnNpTransport P) (bytes : List UInt8) : Except Error Unit × NcacnNpTransport P :=
  let (result, pipe) := NamedPipe.writeAll t.pipe bytes
  (result, { t with pipe })

/-- `self.pipe.read_exact(buffer)?` on a buffer of `n` bytes, and what is in the
buffer then. -/
def readExact (n : Nat) : Eff (Stop Error) (NcacnNpTransport P) (List UInt8) :=
  .ofFun fun t =>
    let (result, pipe) := NamedPipe.readExact t.pipe n
    (mapErr (result.map Vector.toList) id, { t with pipe })

variable [DataRepresentation]

def recvPdu : Eff (Stop Error) (NcacnNpTransport P) (List UInt8) := do
  let headerBytes ← readExact headerLen
  let header ← liftM (PduHeader.decode headerBytes)
  let fragLength := header.fragLength.toNat
  liftM (failIf (fragLength < headerLen)
    (Error.invalidPdu "fragment length is smaller than common header"))
  let bytes := resize headerBytes fragLength 0
  let buffer ← liftM (sliceFrom bytes headerLen : Result (List UInt8))
  let rest ← readExact buffer.length
  return bytes.take headerLen ++ rest

end NcacnNpTransport

end Rpce
