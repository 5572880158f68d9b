import MsrpceDcerpc.Model.Error

/-!
# The crates outside the repository

What the modelled code uses of `msrpce_ndr` and `uuid`, as classes: the
functions, and for `uuid` the documented laws between them. Nothing is
assumed of `DataRepresentation` here; a result that needs the crate's own
DREP to be accepted says so (`WindowsDefaultLittle`).
-/

namespace Rpce

open Rust Endian

/-- A `packed_drep`, `[u8; 4]`. -/
structure PackedDrep where
  b0 : UInt8
  b1 : UInt8
  b2 : UInt8
  b3 : UInt8
  deriving DecidableEq, Repr

def PackedDrep.toList (d : PackedDrep) : List UInt8 := [d.b0, d.b1, d.b2, d.b3]

/-- `msrpce_ndr::DataRepresentation`: `from_bytes` gives the byte order of the
representation or the text of its error, and `windows_default().to_bytes()`
is the DREP of the packets the crate builds. -/
class DataRepresentation where
  fromBytes : PackedDrep → Except String ByteOrder
  windowsDefault : PackedDrep

/-- `from_bytes` accepts the Windows default DREP, as little-endian. -/
def WindowsDefaultLittle [DataRepresentation] : Prop :=
  DataRepresentation.fromBytes DataRepresentation.windowsDefault = .ok .little

/-- The transfer syntaxes `msrpce_ndr` serializes in. -/
inductive NdrSyntax where
  | ndr32
  | ndr64
  deriving DecidableEq, Repr

/-- `msrpce_ndr::Ndr::new()` serializes in NDR32. -/
def Ndr.new : NdrSyntax := .ndr32

/-- `msrpce_ndr::NdrSerialize`: the bytes of a value in each syntax, or the
text of the error. -/
class NdrSerialize (Req : Type) where
  serialize : NdrSyntax → Req → Except String (List UInt8)

/-- `msrpce_ndr::NdrDeserialize`. -/
class NdrDeserialize (Resp : Type) where
  deserialize : NdrSyntax → List UInt8 → Except String Resp

/-- The bytes of a UUID with each of its first three fields reversed: from
big-endian fields to little-endian ones, and back. -/
def swapFields : List UInt8 → List UInt8
  | b0 :: b1 :: b2 :: b3 :: b4 :: b5 :: b6 :: b7 :: rest =>
    b3 :: b2 :: b1 :: b0 :: b5 :: b4 :: b7 :: b6 :: rest
  | bs => bs

/-- `uuid::Uuid`. `as_bytes` has the fields big-endian, `to_bytes_le` has the
first three little-endian; `from_slice` and `from_bytes_le` are their
inverses on 16 bytes. -/
class UuidCrate where
  Uuid : Type
  decEq : DecidableEq Uuid
  asBytes : Uuid → List UInt8
  fromSlice : List UInt8 → Option Uuid
  toBytesLe : Uuid → List UInt8
  fromBytesLe : List UInt8 → Uuid
  fromU128 : Nat → Uuid
  length_asBytes : ∀ u, (asBytes u).length = 16
  fromSlice_asBytes : ∀ u, fromSlice (asBytes u) = some u
  asBytes_fromSlice : ∀ bs, bs.length = 16 → (fromSlice bs).map asBytes = some bs
  toBytesLe_eq : ∀ u, toBytesLe u = swapFields (asBytes u)
  fromBytesLe_toBytesLe : ∀ u, fromBytesLe (toBytesLe u) = u
  toBytesLe_fromBytesLe : ∀ bs, bs.length = 16 → toBytesLe (fromBytesLe bs) = bs

abbrev Uuid [UuidCrate] : Type := UuidCrate.Uuid

instance [UuidCrate] : DecidableEq Uuid := UuidCrate.decEq

/-- The UUIDs that `uuid` makes of numbers, which are big-endian in `as_bytes`:
`from_fields` with its last field as bytes, and `from_u128`. -/
class UuidNumbers [UuidCrate] where
  fromFields : UInt32 → UInt16 → UInt16 → List UInt8 → Uuid
  asBytes_fromFields : ∀ d1 d2 d3 d4, d4.length = 8 → UuidCrate.asBytes (fromFields d1 d2 d3 d4) =
    u32Bytes .big d1 ++ u16Bytes .big d2 ++ u16Bytes .big d3 ++ d4
  asBytes_fromU128 : ∀ n, n < 2 ^ 128 →
    UuidCrate.asBytes (UuidCrate.fromU128 n) = toBytes .big 16 n

theorem length_swapFields (bs : List UInt8) : (swapFields bs).length = bs.length := by
  unfold swapFields
  split <;> rfl

theorem swapFields_swapFields : ∀ bs : List UInt8, swapFields (swapFields bs) = bs
  | _ :: _ :: _ :: _ :: _ :: _ :: _ :: _ :: _ => rfl
  | [] | [_] | [_, _] | [_, _, _] | [_, _, _, _] | [_, _, _, _, _] | [_, _, _, _, _, _]
  | [_, _, _, _, _, _, _] => rfl

@[simp] theorem UuidCrate.length_toBytesLe [UuidCrate] (u : Uuid) : (toBytesLe u).length = 16 := by
  rw [toBytesLe_eq, length_swapFields, length_asBytes]

end Rpce
