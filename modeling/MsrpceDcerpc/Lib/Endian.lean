import Mathlib.Data.List.Basic
import Mathlib.Tactic.Ring

/-!
# Unsigned integers as bytes

`leBytes n v` is the little-endian form of `v` in `n` bytes and `leNat` reads
it back (`leNat_leBytes`, `leBytes_leNat`). `toBytes` and `ofBytes` do the
same in a byte order given as data, for the formats whose header says which
order the sender used: reading in the order of the writer gives the value
(`ofBytes_toBytes`, `toBytes_ofBytes`). `Word` has the laws of a machine
integer of `n` bytes, and what follows from them for its bytes.
-/

namespace Endian

/-- The order of the bytes of an integer. -/
inductive ByteOrder where
  | little
  | big
  deriving DecidableEq, Repr

/-- The `n` low-order bytes of `v`, the least significant first. -/
def leBytes : Nat → Nat → List UInt8
  | 0, _ => []
  | n + 1, v => UInt8.ofNat v :: leBytes n (v / 256)

/-- The number whose bytes are `bs`, the least significant first. -/
def leNat : List UInt8 → Nat
  | [] => 0
  | b :: bs => b.toNat + 256 * leNat bs

@[simp] theorem length_leBytes (n v : Nat) : (leBytes n v).length = n := by
  induction n generalizing v with
  | zero => rfl
  | succ n ih => simp only [leBytes, List.length_cons, ih]

theorem leNat_leBytes (n v : Nat) : leNat (leBytes n v) = v % 256 ^ n := by
  induction n generalizing v with
  | zero => simp only [leBytes, leNat, pow_zero, Nat.mod_one]
  | succ n ih =>
    have hb : (UInt8.ofNat v).toNat = v % 256 := by simp
    rw [leBytes, leNat, ih, hb, pow_succ, Nat.mul_comm (256 ^ n) 256, Nat.mod_mul]

theorem leBytes_leNat (bs : List UInt8) : leBytes bs.length (leNat bs) = bs := by
  induction bs with
  | nil => rfl
  | cons b bs ih =>
    have hb := b.toNat_lt
    have hd : (b.toNat + 256 * leNat bs) / 256 = leNat bs := by omega
    have hm : UInt8.ofNat (b.toNat + 256 * leNat bs) = b := by
      apply UInt8.toNat_inj.mp
      simp only [UInt8.toNat_ofNat']
      omega
    rw [List.length_cons, leNat, leBytes, hd, hm, ih]

theorem leNat_lt (bs : List UInt8) : leNat bs < 256 ^ bs.length := by
  induction bs with
  | nil => exact Nat.one_pos
  | cons b bs ih =>
    have hb := b.toNat_lt
    rw [leNat, List.length_cons, pow_succ]
    omega

/-! ## In a byte order given as data -/

/-- `v` in `n` bytes, in the order `o`. -/
def toBytes (o : ByteOrder) (n v : Nat) : List UInt8 :=
  match o with
  | .little => leBytes n v
  | .big => (leBytes n v).reverse

/-- The number whose bytes, in the order `o`, are `bs`. -/
def ofBytes (o : ByteOrder) (bs : List UInt8) : Nat :=
  match o with
  | .little => leNat bs
  | .big => leNat bs.reverse

@[simp] theorem length_toBytes (o : ByteOrder) (n v : Nat) : (toBytes o n v).length = n := by
  cases o <;> simp only [toBytes, List.length_reverse, length_leBytes]

theorem ofBytes_toBytes (o : ByteOrder) (n v : Nat) : ofBytes o (toBytes o n v) = v % 256 ^ n := by
  cases o <;> simp only [toBytes, ofBytes, List.reverse_reverse, leNat_leBytes]

theorem toBytes_ofBytes (o : ByteOrder) (bs : List UInt8) :
    toBytes o bs.length (ofBytes o bs) = bs := by
  cases o with
  | little => exact leBytes_leNat bs
  | big =>
    rw [toBytes, ofBytes, ← @List.length_reverse _ bs, leBytes_leNat, List.reverse_reverse]

theorem ofBytes_lt (o : ByteOrder) (bs : List UInt8) : ofBytes o bs < 256 ^ bs.length := by
  cases o with
  | little => exact leNat_lt bs
  | big => rw [← @List.length_reverse _ bs]; exact leNat_lt bs.reverse

theorem toBytes_eq_little_iff {o : ByteOrder} {n v : Nat} :
    toBytes o n v = toBytes .little n v ↔
      o = .little ∨ toBytes .big n v = toBytes .little n v := by
  cases o with
  | little => exact iff_of_true rfl (.inl rfl)
  | big => exact (or_iff_right (by decide)).symm

/-! ## Machine integers -/

/-- `W` is the type of the unsigned integers of `n` bytes. -/
class Word (W : Type) (n : outParam Nat) where
  toNat : W → Nat
  ofNat : Nat → W
  toNat_lt (x : W) : toNat x < 256 ^ n
  ofNat_toNat (x : W) : ofNat (toNat x) = x
  toNat_ofNat {v : Nat} (h : v < 256 ^ n) : toNat (ofNat v) = v

instance : Word UInt16 2 where
  toNat := UInt16.toNat
  ofNat := UInt16.ofNat
  toNat_lt := UInt16.toNat_lt
  ofNat_toNat _ := UInt16.ofNat_toNat
  toNat_ofNat h := UInt16.toNat_ofNat_of_lt' h

instance : Word UInt32 4 where
  toNat := UInt32.toNat
  ofNat := UInt32.ofNat
  toNat_lt := UInt32.toNat_lt
  ofNat_toNat _ := UInt32.ofNat_toNat
  toNat_ofNat h := UInt32.toNat_ofNat_of_lt' h

namespace Word

variable {W : Type} {n : Nat} [Word W n]

/-- The bytes of `x`. -/
def bytes (o : ByteOrder) (x : W) : List UInt8 := toBytes o n (toNat x)

/-- The integer whose bytes are `bs`. -/
def read (o : ByteOrder) (bs : List UInt8) : W := ofNat (ofBytes o bs)

theorem length_bytes (o : ByteOrder) (x : W) : (bytes o x).length = n := length_toBytes ..

theorem read_bytes (o : ByteOrder) (x : W) : read o (bytes o x) = x := by
  rw [read, bytes, ofBytes_toBytes, Nat.mod_eq_of_lt (toNat_lt x), ofNat_toNat]

theorem bytes_read (o : ByteOrder) {bs : List UInt8} (h : bs.length = n) :
    bytes o (read o bs : W) = bs := by
  have hlt : ofBytes o bs < 256 ^ n := h ▸ ofBytes_lt o bs
  rw [bytes, read, toNat_ofNat hlt, ← h, toBytes_ofBytes]

/-- What is read in one order is what was written in another if its bytes are
the same in both. -/
theorem read_bytes_eq_iff {o o' : ByteOrder} {x : W} :
    read o' (bytes o x) = x ↔ bytes o x = bytes o' x := by
  constructor
  · intro h
    rw [← bytes_read (W := W) o' (length_bytes o x), h]
  · intro h
    rw [h, read_bytes]

end Word

end Endian
