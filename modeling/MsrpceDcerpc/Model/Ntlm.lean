import MsrpceDcerpc.Lib.Effect
import MsrpceDcerpc.Model.Auth

/-!
# The NTLM provider (`auth.rs`, feature `ntlm-sspi`)

The provider over any NTLM of the crate `sspi` (`Ntlm`). It has a record of the
`calls` that were made to the crate, which the code does not have and no function
of the model reads.
-/

namespace Rpce

open Rust Eff

/-! ## The crate `sspi` -/

/-- `sspi::SecurityStatus`, whose other values the provider does not tell
apart. -/
inductive SecurityStatus where
  | ok
  | continueNeeded
  | completeNeeded
  | completeAndContinue
  | other (code : UInt32)
  deriving DecidableEq, Repr

/-- `sspi::CredentialUse`. -/
inductive CredentialUse where
  | inbound
  | outbound
  | both
  | default
  deriving DecidableEq, Repr

/-- `sspi::DataRepresentation`, of a target. -/
inductive TargetDataRepresentation where
  | network
  | native
  deriving DecidableEq, Repr

/-- `sspi::AuthIdentity`, with usernames `U`. -/
structure AuthIdentity (U : Type) where
  username : U
  password : String

/-- An error of `initialize_security_context_impl`, or of what it returns when
that is resolved. -/
inductive InitializeError where
  | impl (err : String)
  | resolve (err : String)
  deriving DecidableEq, Repr

/-- What `initialize_security_context` returns and wrote: a status, the token in
the output buffer and the credentials, and the new state. -/
structure Initialized (N C : Type) where
  result : Except InitializeError SecurityStatus
  output : List UInt8
  credentials : C
  ntlm : N

/-- `sspi::Ntlm`, with credentials `C`, and `sspi::Username`. -/
class Ntlm (N : Type) (U C : outParam Type) where
  USE_DCE_STYLE : UInt32
  usernameNew : (accountName : String) → (domainName : Option String) → Except String U
  new : N
  acquireCredentialsHandle : N → CredentialUse → AuthIdentity U → Except String C × N
  initializeSecurityContext : N → (credentials : C) → (contextRequirements : UInt32) →
    TargetDataRepresentation → (targetName : String) → (input : Option (List UInt8)) → Initialized N C
  completeAuthToken : N → List UInt8 → Except String SecurityStatus × List UInt8 × N

/-- A call of the crate: credentials with the target they are for, and a token
that is completed with the status that it has. -/
inductive NtlmCall (C : Type) where
  | acquireCredentialsHandle (target : String) (result : Except String C)
  | initializeSecurityContext (credentials : C) (target : String) (input : Option (List UInt8))
      (result : Except InitializeError SecurityStatus) (output : List UInt8) (credentials' : C)
  | completeAuthToken (status : SecurityStatus) (token : List UInt8)
      (result : Except String SecurityStatus) (token' : List UInt8)

/-! ## The provider -/

/-- `auth::NtlmRpcAuthProvider`. -/
structure NtlmRpcAuthProvider (N U C : Type) where
  ntlm : N
  identity : AuthIdentity U
  credentialsHandle : Option C
  target : Option String
  authLevel : AuthLevel
  authContextId : UInt32
  established : Bool
  calls : List (NtlmCall C)

variable {N U C : Type} [Ntlm N U C]

variable (N) in
def ntlmRpcContextFlags : UInt32 := Ntlm.USE_DCE_STYLE N

namespace NtlmRpcAuthProvider

def new (domain username password : String) : Except RpcAuthError (NtlmRpcAuthProvider N U C) :=
  match Ntlm.usernameNew N username (some domain) with
  | .error err => .error (.provider ("NTLM username setup failed: " ++ err))
  | .ok username =>
    .ok { ntlm := Ntlm.new, identity := { username, password }, credentialsHandle := none, target := none,
          authLevel := .connect, authContextId := 0, established := false, calls := [] }

def withAuthLevel (p : NtlmRpcAuthProvider N U C) (authLevel : AuthLevel) : NtlmRpcAuthProvider N U C :=
  { p with authLevel }

def withAuthContextId (p : NtlmRpcAuthProvider N U C) (authContextId : UInt32) :
    NtlmRpcAuthProvider N U C := { p with authContextId }

/-- `ntlm.acquire_credentials_handle()`, for `target`. -/
def acquireCredentialsHandle (target : String) : Eff RpcAuthError (NtlmRpcAuthProvider N U C) C :=
  .ofFun fun p =>
    let (result, ntlm) := Ntlm.acquireCredentialsHandle p.ntlm .outbound p.identity
    let p := { p with ntlm, calls := p.calls ++ [.acquireCredentialsHandle target result] }
    match result with
    | .ok credentials => (.ok credentials, p)
    | .error err => (.error (.provider ("NTLM acquire credentials failed: " ++ err)), p)

/-- `ntlm.initialize_security_context_impl(..)`, resolved: the status and the
token in the output buffer. -/
def initializeSecurityContext (credentials : C) (target : String) (input : Option (List UInt8)) :
    Eff RpcAuthError (NtlmRpcAuthProvider N U C) (SecurityStatus × List UInt8) :=
  .ofFun fun p =>
    let r := Ntlm.initializeSecurityContext p.ntlm credentials (ntlmRpcContextFlags N) .native target
      input
    let p := { p with
      ntlm := r.ntlm
      credentialsHandle := some r.credentials
      calls := p.calls ++
        [.initializeSecurityContext credentials target input r.result r.output r.credentials] }
    match r.result with
    | .ok status => (.ok (status, r.output), p)
    | .error (.impl err) => (.error (.provider ("NTLM initialize failed: " ++ err)), p)
    | .error (.resolve err) => (.error (.provider ("NTLM token generation failed: " ++ err)), p)

/-- `ntlm.complete_auth_token(..)`: the token in the buffer then. -/
def completeAuthToken (status : SecurityStatus) (token : List UInt8) :
    Eff RpcAuthError (NtlmRpcAuthProvider N U C) (List UInt8) :=
  .ofFun fun p =>
    let (result, token', ntlm) := Ntlm.completeAuthToken p.ntlm token
    let p := { p with ntlm, calls := p.calls ++ [.completeAuthToken status token result token'] }
    match result with
    | .ok _ => (.ok token', p)
    | .error err => (.error (.provider ("NTLM complete token failed: " ++ err)), p)

def nextToken (input : Option (List UInt8)) : Eff RpcAuthError (NtlmRpcAuthProvider N U C) (List UInt8) := do
  let p ← get
  match p.credentialsHandle, p.target with
  | none, _ => throw (.provider "NTLM credentials are not initialized")
  | some _, none => throw (.provider "NTLM target is not initialized")
  | some credentials, some target =>
    let (status, output) ← initializeSecurityContext credentials target input
    let token ←
      if status = .completeAndContinue ∨ status = .completeNeeded then completeAuthToken status output
      else pure output
    modify fun p =>
      { p with established := !decide (status = .continueNeeded ∨ status = .completeAndContinue) }
    return token

def initContext (target : String) : Eff RpcAuthError (NtlmRpcAuthProvider N U C) (List UInt8) := do
  let credentials ← acquireCredentialsHandle target
  modify fun p => { p with credentialsHandle := some credentials, target := some target }
  nextToken none

def step (challenge : List UInt8) : Eff RpcAuthError (NtlmRpcAuthProvider N U C) (List UInt8) :=
  nextToken (some challenge)

def isContextEstablished (p : NtlmRpcAuthProvider N U C) : Bool := p.established

/-- `impl RpcAuthProvider for NtlmRpcAuthProvider`. -/
instance : RpcAuthProvider (NtlmRpcAuthProvider N U C) where
  mechanism _ := .ntlm
  authLevel p := p.authLevel
  authContextId p := p.authContextId
  initContext p target := (initContext target).exec p
  step p challenge := (step challenge).exec p

end NtlmRpcAuthProvider

end Rpce
