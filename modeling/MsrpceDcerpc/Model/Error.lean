import MsrpceDcerpc.Lib.Rust

/-!
# The crate's error type and the wire codes it carries

`Error` (`error.rs`), with the two enumerations of `bind.rs` and the one of
`pdu.rs` that occur in it, and the `Result` every function of the crate
returns. Each enumeration has its discriminants (`toUInt16`) and its
`TryFrom` (`tryFrom`), inverse to each other.
-/

namespace Rpce

open Rust

/-- `bind::PresentationResultCode`. -/
inductive PresentationResultCode where
  | acceptance
  | userRejection
  | providerRejection
  | negotiateAck
  deriving DecidableEq, Repr

/-- `bind::PresentationRejectReason`. -/
inductive PresentationRejectReason where
  | reasonNotSpecified
  | abstractSyntaxNotSupported
  | proposedTransferSyntaxNotSupported
  | localLimitExceeded
  deriving DecidableEq, Repr

/-- `pdu::RejectReason`. -/
inductive RejectReason where
  | reasonNotSpecified
  | abstractSyntaxNotSupported
  | proposedTransferSyntaxNotSupported
  | localLimitExceeded
  | protocolVersionNotSpecified
  | authenticationTypeNotRecognized
  | invalidChecksum
  deriving DecidableEq, Repr

/-- `error::Error`. -/
inductive Error where
  | invalidPduType (value : UInt8)
  | invalidPdu (message : String)
  | bindRejected (reason : RejectReason)
  | presentationContextRejected (contextId : UInt16) (result : PresentationResultCode)
      (reason : PresentationRejectReason)
  | fault (status : UInt32)
  | transport (message : String)
  | auth (message : String)
  | ndr (message : String)
  deriving DecidableEq, Repr

/-- `error::Result`. -/
abbrev Result (α : Type) := Res Error α

namespace PresentationResultCode

def toUInt16 : PresentationResultCode → UInt16
  | acceptance => 0
  | userRejection => 1
  | providerRejection => 2
  | negotiateAck => 3

def tryFrom (value : UInt16) : Result PresentationResultCode :=
  match value with
  | 0 => .ok acceptance
  | 1 => .ok userRejection
  | 2 => .ok providerRejection
  | 3 => .ok negotiateAck
  | _ => .error (.err (.invalidPdu "unknown presentation result code"))

@[simp] theorem tryFrom_toUInt16 (c : PresentationResultCode) : tryFrom c.toUInt16 = .ok c := by
  cases c <;> rfl

theorem tryFrom_eq_ok {value : UInt16} {c : PresentationResultCode} (h : tryFrom value = .ok c) :
    value = c.toUInt16 := by
  unfold tryFrom at h
  split at h <;> cases h <;> rfl

theorem returns_tryFrom (value : UInt16) : Returns (tryFrom value) := by
  unfold tryFrom
  split <;> first | exact .ok _ | exact .err _

end PresentationResultCode

namespace PresentationRejectReason

def toUInt16 : PresentationRejectReason → UInt16
  | reasonNotSpecified => 0
  | abstractSyntaxNotSupported => 1
  | proposedTransferSyntaxNotSupported => 2
  | localLimitExceeded => 3

def tryFrom (value : UInt16) : Result PresentationRejectReason :=
  match value with
  | 0 => .ok reasonNotSpecified
  | 1 => .ok abstractSyntaxNotSupported
  | 2 => .ok proposedTransferSyntaxNotSupported
  | 3 => .ok localLimitExceeded
  | _ => .error (.err (.invalidPdu "unknown presentation reject reason"))

@[simp] theorem tryFrom_toUInt16 (r : PresentationRejectReason) : tryFrom r.toUInt16 = .ok r := by
  cases r <;> rfl

theorem tryFrom_eq_ok {value : UInt16} {r : PresentationRejectReason} (h : tryFrom value = .ok r) :
    value = r.toUInt16 := by
  unfold tryFrom at h
  split at h <;> cases h <;> rfl

theorem returns_tryFrom (value : UInt16) : Returns (tryFrom value) := by
  unfold tryFrom
  split <;> first | exact .ok _ | exact .err _

end PresentationRejectReason

namespace RejectReason

def tryFrom (value : UInt16) : Result RejectReason :=
  match value with
  | 0x0000 => .ok reasonNotSpecified
  | 0x0001 => .ok abstractSyntaxNotSupported
  | 0x0002 => .ok proposedTransferSyntaxNotSupported
  | 0x0003 => .ok localLimitExceeded
  | 0x0004 => .ok protocolVersionNotSpecified
  | 0x0008 => .ok authenticationTypeNotRecognized
  | 0x0009 => .ok invalidChecksum
  | _ => .error (.err (.invalidPdu "unknown bind nak reject reason"))

theorem returns_tryFrom (value : UInt16) : Returns (tryFrom value) := by
  unfold tryFrom
  split <;> first | exact .ok _ | exact .err _

end RejectReason

end Rpce
