import MsrpceDcerpc.Model.Error

/-!
# Authentication providers and transports (`auth.rs`, `transport.rs`)

The two traits the client is generic in, as state machines: a method on
`&mut self` takes the state and returns the new one with its result, a method
on `&self` is a function of the state.
-/

namespace Rpce

open Rust

/-- `auth::RpcAuthError`. -/
inductive RpcAuthError where
  | unsupported (message : String)
  | provider (message : String)
  deriving DecidableEq, Repr

/-- `impl From<RpcAuthError> for Error`. -/
def Error.ofAuth : RpcAuthError → Error
  | .unsupported message => .auth message
  | .provider message => .auth message

/-- The digits of `{value:02X}`. -/
def hexByte (value : UInt8) : String :=
  let digit (n : Nat) : Char := "0123456789ABCDEF".toList.getD n '0'
  String.ofList [digit (value.toNat / 16), digit (value.toNat % 16)]

/-- `auth::AuthLevel`. -/
inductive AuthLevel where
  | none
  | connect
  | packetIntegrity
  | packetPrivacy
  deriving DecidableEq, Repr

namespace AuthLevel

def toUInt8 : AuthLevel → UInt8
  | none => 0
  | connect => 2
  | packetIntegrity => 5
  | packetPrivacy => 6

def tryFrom (value : UInt8) : Except RpcAuthError AuthLevel :=
  match value with
  | 0 => .ok none
  | 2 => .ok connect
  | 5 => .ok packetIntegrity
  | 6 => .ok packetPrivacy
  | _ => .error (.provider ("unsupported RPC auth level: 0x" ++ hexByte value))

/-- The levels version 1 supports: no packet is signed or sealed. -/
def Supported (l : AuthLevel) : Prop := l = none ∨ l = connect

instance (l : AuthLevel) : Decidable l.Supported :=
  inferInstanceAs (Decidable (_ ∨ _))

@[simp] theorem tryFrom_toUInt8 (l : AuthLevel) : tryFrom l.toUInt8 = .ok l := by
  cases l <;> rfl

theorem tryFrom_eq_ok {value : UInt8} {l : AuthLevel} (h : tryFrom value = .ok l) :
    value = l.toUInt8 := by
  unfold tryFrom at h
  split at h <;> cases h <;> rfl

end AuthLevel

/-- `auth::AuthMechanism`. -/
inductive AuthMechanism where
  | none
  | kerberos
  | ntlm
  deriving DecidableEq, Repr

/-- `auth::RpcAuthType`. -/
inductive RpcAuthType where
  | none
  | gssNegotiate
  | winNt
  | gssKerberos
  deriving DecidableEq, Repr

namespace RpcAuthType

def toUInt8 : RpcAuthType → UInt8
  | none => 0
  | gssNegotiate => 9
  | winNt => 10
  | gssKerberos => 16

def tryFrom (value : UInt8) : Except RpcAuthError RpcAuthType :=
  match value with
  | 0 => .ok none
  | 9 => .ok gssNegotiate
  | 10 => .ok winNt
  | 16 => .ok gssKerberos
  | _ => .error (.provider ("unsupported RPC auth type: 0x" ++ hexByte value))

/-- `RpcAuthProvider::auth_type`, as the trait defines it. -/
def ofMechanism : AuthMechanism → RpcAuthType
  | .none => none
  | .kerberos => gssKerberos
  | .ntlm => winNt

@[simp] theorem tryFrom_toUInt8 (t : RpcAuthType) : tryFrom t.toUInt8 = .ok t := by
  cases t <;> rfl

theorem tryFrom_eq_ok {value : UInt8} {t : RpcAuthType} (h : tryFrom value = .ok t) :
    value = t.toUInt8 := by
  unfold tryFrom at h
  split at h <;> cases h <;> rfl

end RpcAuthType

/-- `auth::RpcAuthProvider`. -/
class RpcAuthProvider (A : Type) where
  mechanism : A → AuthMechanism
  authLevel : A → AuthLevel
  initContext : A → String → Except RpcAuthError (List UInt8) × A
  step : A → List UInt8 → Except RpcAuthError (List UInt8) × A
  authType : A → RpcAuthType := fun a => .ofMechanism (mechanism a)
  authContextId : A → UInt32 := fun _ => 0

/-- `transport::RpcTransport`. -/
class RpcTransport (T : Type) where
  sendPdu : T → List UInt8 → Except Error Unit × T
  recvPdu : T → Except Error (List UInt8) × T

end Rpce
