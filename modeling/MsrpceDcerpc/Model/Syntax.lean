import MsrpceDcerpc.Model.Crates

/-!
# Syntax identifiers (`syntax.rs`)
-/

namespace Rpce

open Rust Endian Segment UuidCrate

variable [UuidCrate]

/-- `syntax::SyntaxId`. -/
structure SyntaxId where
  uuid : Uuid
  version : UInt32
  deriving DecidableEq

namespace SyntaxId

def new (uuid : Uuid) (majorVersion minorVersion : UInt16) : SyntaxId :=
  { uuid, version := majorVersion.toUInt32 ||| (minorVersion.toUInt32 <<< 16) }

def encode (s : SyntaxId) : List UInt8 := toBytesLe s.uuid ++ u32Bytes .little s.version

def decode (bytes : List UInt8) : Result SyntaxId := do
  failIf (bytes.length < 20) (.invalidPdu "syntax identifier requires 20 bytes")
  let uuidBytes ← slice bytes 0 16
  let version ← readU32 .little bytes 16
  return { uuid := fromBytesLe uuidBytes, version }

/-- The syntax that stands for the features of `bitmask`. -/
def bindTimeFeatureNegotiation [UuidNumbers] (bitmask : UInt16) : SyntaxId :=
  { uuid := UuidNumbers.fromFields 0x6CB71C2C 0x9812 0x4540
      (u16Bytes .little bitmask ++ [0, 0, 0, 0, 0, 0])
    version := 1 }

@[simp] theorem length_encode (s : SyntaxId) : s.encode.length = 20 := by
  simp only [encode, List.length_append, length_toBytesLe, length_u32Bytes]

/-- A syntax identifier is decoded from the bytes that start with its own. -/
theorem decode_eq_ok {bytes : List UInt8} {s : SyntaxId} :
    decode bytes = .ok s ↔ At bytes 0 s.encode := by
  simp only [decode, bind_eq_ok, failIf_eq_ok, slice_eq_ok, readU32_eq_ok, pure_eq_ok,
    Except.ok.injEq]
  constructor
  · rintro ⟨-, -, uuidBytes, ⟨-, -, hl, huuid⟩, version, ⟨-, hver⟩, rfl⟩
    have hu : toBytesLe (fromBytesLe uuidBytes) = uuidBytes := toBytesLe_fromBytesLe _ hl
    rw [encode, at_append, hu, hl]
    exact ⟨huuid, hver⟩
  · intro h
    have hl := h.length_le (Nat.zero_le _)
    rw [length_encode] at hl
    rw [encode, at_append, length_toBytesLe] at h
    exact ⟨(), by omega, _, ⟨by omega, by omega, length_toBytesLe _, h.1⟩, _, ⟨by omega, h.2⟩,
      by rw [fromBytesLe_toBytesLe]⟩

theorem decode_encode (s : SyntaxId) : decode s.encode = .ok s :=
  decode_eq_ok.mpr (at_zero_self _)

theorem returns_decode (bytes : List UInt8) : Returns (decode bytes) := by
  refine .bind (.failIf _ _) fun _ hl => ?_
  rw [failIf_eq_ok] at hl
  refine .bind (.slice (by omega) (by omega)) fun _ _ => ?_
  exact .bind (.readU32 (by omega)) fun _ _ => .ok _

end SyntaxId

def BIND_TIME_FEATURE_SECURITY_CONTEXT_MULTIPLEXING : UInt16 := 0x0001

def BIND_TIME_FEATURE_KEEP_CONNECTION_ON_ORPHAN : UInt16 := 0x0002

/-- `syntax::InterfaceId`. -/
structure InterfaceId where
  uuid : Uuid
  majorVersion : UInt16
  minorVersion : UInt16
  deriving DecidableEq

namespace InterfaceId

def versionU32 (i : InterfaceId) : UInt32 :=
  i.majorVersion.toUInt32 ||| (i.minorVersion.toUInt32 <<< 16)

def syntaxId (i : InterfaceId) : SyntaxId := { uuid := i.uuid, version := i.versionU32 }

end InterfaceId

/-- `syntax::TransferSyntax`. -/
inductive TransferSyntax where
  | ndr32
  | ndr64
  deriving DecidableEq, Repr

namespace TransferSyntax

def syntaxId : TransferSyntax → SyntaxId
  | ndr32 => .new (fromU128 0x8a885d041ceb11c99fe808002b104860) 2 0
  | ndr64 => .new (fromU128 0x71710533beba49378319b5dbef9ccc36) 1 0

def asNdrSyntax : TransferSyntax → NdrSyntax
  | ndr32 => .ndr32
  | ndr64 => .ndr64

theorem version_ndr32 : (syntaxId ndr32).version = 2 := rfl

theorem version_ndr64 : (syntaxId ndr64).version = 1 := rfl

/-- The two syntaxes have different identifiers: their versions differ. -/
theorem syntaxId_injective : Function.Injective (syntaxId : TransferSyntax → SyntaxId) := by
  intro a b h
  have hv := congrArg SyntaxId.version h
  cases a <;> cases b <;> simp only [version_ndr32, version_ndr64, reduceCtorEq] at hv ⊢
  · exact absurd hv (by decide)
  · exact absurd hv (by decide)

end TransferSyntax

end Rpce
