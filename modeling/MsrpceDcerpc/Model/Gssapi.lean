import MsrpceDcerpc.Lib.Effect
import MsrpceDcerpc.Lib.Ledger
import MsrpceDcerpc.Lib.Text
import MsrpceDcerpc.Model.Auth

/-!
# The Kerberos provider (`auth.rs`, feature `gssapi`)

The provider over any GSSAPI (`Gss`), whose functions get and return handles: a
pointer is an `Option`, with `none` for the null pointer. A `GssWorld` is the
state of the library with the `calls` that were made to it, which the code does
not have and no function of the model reads. A method on a context or on a
provider runs over it and the world; where Rust drops a value that has a
`Drop`, the model says so.
-/

namespace Rpce

open Rust

/-- `libgssapi_sys::gss_buffer_desc`, of memory of the library. -/
structure GssBuffer (H : Type) where
  length : Nat
  value : Option H

/-- What a function of the library returns: the two status codes, and what it
wrote through its pointers. -/
structure GssResult (G α : Type) where
  major : UInt32
  minor : UInt32
  value : α
  gss : G

/-- `libgssapi_sys`, with the library behind it as a state `G`, and handles `H`.
`importName` is `gss_import_name` for a `GSS_C_NT_HOSTBASED_SERVICE`, and
`acquireCred` is `gss_acquire_cred` for the default credentials of an
initiator. `memory` is what `from_raw_parts` reads. -/
class Gss (G : Type) (H : outParam Type) where
  GSS_S_COMPLETE : UInt32
  GSS_S_CONTINUE_NEEDED : UInt32
  GSS_C_MUTUAL_FLAG : UInt32
  GSS_C_INTEG_FLAG : UInt32
  GSS_C_DCE_STYLE : UInt32
  importName : G → List UInt8 → GssResult G (Option H)
  acquireCred : G → GssResult G (Option H)
  initSecContext : G → (credential context name : Option H) → (mech : List UInt8) →
    (flags : UInt32) → (input : Option (List UInt8)) → GssResult G (Option H × GssBuffer H)
  deleteSecContext : G → H → G
  releaseCred : G → H → G
  releaseName : G → H → G
  releaseBuffer : G → H → G
  memory : G → H → Nat → List UInt8

/-- A call of a function of the library. -/
inductive GssCall (H : Type) where
  | importName (name : List UInt8) (major : UInt32) (result : Option H)
  | acquireCred (major : UInt32) (result : Option H)
  | initSecContext (credential context name : Option H) (mech : List UInt8) (flags : UInt32)
      (input : Option (List UInt8)) (major : UInt32) (context' : Option H) (output : GssBuffer H)
  | memory (buffer : H) (length : Nat)
  | deleteSecContext (context : H)
  | releaseCred (credential : H)
  | releaseName (name : H)
  | releaseBuffer (buffer : H)

/-- The library, and what it was called for. -/
structure GssWorld (G H : Type) where
  gss : G
  calls : List (GssCall H)

variable {G H : Type}

def GssWorld.called (w : GssWorld G H) (gss : G) (call : GssCall H) : GssWorld G H :=
  { gss, calls := w.calls ++ [call] }

/-- The digits of `{value:08X}`. -/
def hexUInt32 (value : UInt32) : String :=
  hexByte (value >>> 24).toUInt8 ++ hexByte (value >>> 16).toUInt8 ++ hexByte (value >>> 8).toUInt8 ++
    hexByte value.toUInt8

/-- The error of a function of the library. -/
def gssapiFailed (what : String) (major minor : UInt32) : RpcAuthError :=
  .provider ("GSSAPI " ++ what ++ " failed: major=0x" ++ hexUInt32 major ++ " minor=0x" ++
    hexUInt32 minor)

def kerberosMechOid : List UInt8 := [0x2a, 0x86, 0x48, 0x86, 0xf7, 0x12, 0x01, 0x02, 0x02]

/-- `auth::GssapiClientContext`. -/
structure GssapiClientContext (H : Type) where
  credential : Option H
  name : Option H
  context : Option H
  established : Bool

/-- `auth::GssapiKerberosRpcAuthProvider`. -/
structure GssapiKerberosRpcAuthProvider (H : Type) where
  servicePrincipal : Option String
  context : Option (GssapiClientContext H)
  authLevel : AuthLevel

section

variable [Gss G H]

/-! ## Names, credentials and buffers -/

def importGssapiServiceName (serviceName : String) : Eff RpcAuthError (GssWorld G H) (Option H) :=
  .ofFun fun w =>
    let bytes := serviceName.toUTF8.toList
    let r := Gss.importName w.gss bytes
    let w := w.called r.gss (.importName bytes r.major r.value)
    if r.major = Gss.GSS_S_COMPLETE G then (.ok r.value, w)
    else (.error (gssapiFailed "import service name" r.major r.minor), w)

def acquireGssapiCredentials : Eff RpcAuthError (GssWorld G H) (Option H) :=
  .ofFun fun w =>
    let r := Gss.acquireCred w.gss
    let w := w.called r.gss (.acquireCred r.major r.value)
    if r.major = Gss.GSS_S_COMPLETE G then (.ok r.value, w)
    else (.error (gssapiFailed "acquire default credentials" r.major r.minor), w)

/-- `if !p.is_null() { release(&mut minor, &mut p) }`. -/
def releasePointer (release : G → H → G) (call : H → GssCall H) (p : Option H) (w : GssWorld G H) :
    GssWorld G H :=
  match p with
  | none => w
  | some h => w.called (release w.gss h) (call h)

def releaseGssapiName (name : Option H) (w : GssWorld G H) : GssWorld G H :=
  releasePointer Gss.releaseName .releaseName name w

def releaseGssapiBuffer (buffer : GssBuffer H) (w : GssWorld G H) : GssWorld G H :=
  releasePointer Gss.releaseBuffer .releaseBuffer buffer.value w

def copyGssapiBuffer (buffer : GssBuffer H) (w : GssWorld G H) : List UInt8 × GssWorld G H :=
  match buffer.value with
  | none => ([], w)
  | some h =>
    if buffer.length = 0 then ([], w)
    else (Gss.memory w.gss h buffer.length, w.called w.gss (.memory h buffer.length))

/-! ## Contexts -/

namespace GssapiClientContext

def new (serviceName : String) : Eff RpcAuthError (GssWorld G H) (GssapiClientContext H) := do
  let name ← importGssapiServiceName serviceName
  .ofFun fun w =>
    match acquireGssapiCredentials.exec w with
    | (.ok credential, w) => (.ok { credential, name, context := none, established := false }, w)
    | (.error err, w) => (.error err, releaseGssapiName name w)

variable (G) in
def requestFlags : UInt32 :=
  Gss.GSS_C_MUTUAL_FLAG G ||| Gss.GSS_C_INTEG_FLAG G ||| Gss.GSS_C_DCE_STYLE G

/-- `GssapiClientContext::step`. What the library wrote to `self.context` stays
there when it failed. -/
def step (input : Option (List UInt8)) :
    Eff RpcAuthError (GssapiClientContext H × GssWorld G H) (Option (List UInt8)) :=
  .ofFun fun (c, w) =>
    let r := Gss.initSecContext w.gss c.credential c.context c.name kerberosMechOid (requestFlags G)
      input
    let (context, output) := r.value
    let w := w.called r.gss (.initSecContext c.credential c.context c.name kerberosMechOid
      (requestFlags G) input r.major context output)
    let c := { c with context }
    if r.major ≠ Gss.GSS_S_COMPLETE G ∧ r.major ≠ Gss.GSS_S_CONTINUE_NEEDED G then
      (.error (gssapiFailed "init security context" r.major r.minor),
        (c, releaseGssapiBuffer output w))
    else
      let c := { c with established := r.major = Gss.GSS_S_COMPLETE G }
      let (token, w) := copyGssapiBuffer output w
      (.ok (if token = [] then none else some token), (c, releaseGssapiBuffer output w))

/-- `GssapiClientContext::drop`. -/
def drop (c : GssapiClientContext H) (w : GssWorld G H) : GssWorld G H :=
  let w := releasePointer Gss.deleteSecContext .deleteSecContext c.context w
  let w := releasePointer Gss.releaseCred .releaseCred c.credential w
  releaseGssapiName c.name w

end GssapiClientContext

/-! ## The provider -/

namespace GssapiKerberosRpcAuthProvider

def new : GssapiKerberosRpcAuthProvider H :=
  { servicePrincipal := none, context := none, authLevel := .connect }

def withServicePrincipal (p : GssapiKerberosRpcAuthProvider H) (service : String) :
    GssapiKerberosRpcAuthProvider H := { p with servicePrincipal := some service }

def withAuthLevel (p : GssapiKerberosRpcAuthProvider H) (authLevel : AuthLevel) :
    GssapiKerberosRpcAuthProvider H := { p with authLevel }

def serviceNameForTarget (target : String) : String :=
  if '@' ∈ target.toList then target
  else match splitOnce target '/' with
    | some (service, host) => service ++ "@" ++ host
    | none => target

def buildContext (p : GssapiKerberosRpcAuthProvider H) (target : String) :
    Eff RpcAuthError (GssWorld G H) (GssapiClientContext H) :=
  GssapiClientContext.new (p.servicePrincipal.getD (serviceNameForTarget target))

def dropContext (context : Option (GssapiClientContext H)) (w : GssWorld G H) : GssWorld G H :=
  match context with
  | none => w
  | some c => c.drop w

/-- `init_context`. The new context is dropped if it gives no token, and
otherwise the old one, which it replaces. -/
def initContext (target : String) :
    Eff RpcAuthError (GssapiKerberosRpcAuthProvider H × GssWorld G H) (List UInt8) :=
  .ofFun fun (p, w) =>
    match (p.buildContext target).exec w with
    | (.error err, w) => (.error err, (p, w))
    | (.ok context, w) =>
      match (GssapiClientContext.step none).exec (context, w) with
      | (.error err, (context, w)) => (.error err, (p, context.drop w))
      | (.ok none, (context, w)) =>
        (.error (.provider "GSSAPI initial token is empty"), (p, context.drop w))
      | (.ok (some token), (context, w)) =>
        (.ok token, ({ p with context := some context }, dropContext p.context w))

def step (challenge : List UInt8) :
    Eff RpcAuthError (GssapiKerberosRpcAuthProvider H × GssWorld G H) (List UInt8) :=
  .ofFun fun (p, w) =>
    match p.context with
    | none => (.error (.provider "GSSAPI context is not initialized"), (p, w))
    | some context =>
      let (result, (context, w)) := (GssapiClientContext.step (some challenge)).exec (context, w)
      (result.map (·.getD []), ({ p with context := some context }, w))

def isContextEstablished (p : GssapiKerberosRpcAuthProvider H) : Bool :=
  match p.context with
  | none => false
  | some c => c.established

/-- A provider that is dropped. -/
def drop (p : GssapiKerberosRpcAuthProvider H) (w : GssWorld G H) : GssWorld G H :=
  dropContext p.context w

/-- `impl RpcAuthProvider for GssapiKerberosRpcAuthProvider`, with the library. -/
instance : RpcAuthProvider (GssapiKerberosRpcAuthProvider H × GssWorld G H) where
  mechanism _ := .kerberos
  authLevel a := a.1.authLevel
  initContext a target := (initContext target).exec a
  step a challenge := (step challenge).exec a

end GssapiKerberosRpcAuthProvider

end

end Rpce
