import MsrpceDcerpc.Lib.Effect
import MsrpceDcerpc.Lib.Endian
import MsrpceDcerpc.Lib.Segment

/-!
# Rust functions over byte slices

A function of checked Rust returns, or stops: with an error value (`?` on an
`Err`), with a panic (a slice index out of range, an overflow of checked
arithmetic, an `expect` on an `Err`), or, where the model bounds a loop that
the code does not, with the loop still going (`Stop.fuel`). `Res E` is its
result. The primitives below panic on the inputs on which Rust's do.

* `bind_eq_ok` and its variants take a computation that succeeded apart;
* `slice_eq_ok`, `index_eq_ok`, `readU16_eq_ok` and `readU32_eq_ok` say what
  a successful read found, as a `Segment.At`;
* `Returns` and its rules show that a function ends with a value or an error
  value, `AlwaysReturns` and its rules that a method does from every state;
* `ErrorsIn` and its rules say which error values these can be.
-/

namespace Rust

open Endian Segment

/-- The panics of the primitives. -/
inductive Panic where
  | index
  | overflow
  | expect (msg : String)
  deriving DecidableEq, Repr

/-- Why a computation ended without a value. -/
inductive Stop (E : Type) where
  | err (e : E)
  | panic (p : Panic)
  | fuel
  deriving DecidableEq, Repr

/-- The result of a function whose `Result` has the error type `E`. -/
abbrev Res (E α : Type) := Except (Stop E) α

variable {E α β : Type}

/-- `if p { return Err(e) }`. -/
def failIf (p : Prop) [Decidable p] (e : E) : Res E Unit :=
  if p then .error (.err e) else .ok ()

/-- `xs[a..b]`. -/
def slice (xs : List α) (a b : Nat) : Res E (List α) :=
  if a ≤ b ∧ b ≤ xs.length then .ok ((xs.drop a).take (b - a)) else .error (.panic .index)

/-- `xs[a..]`. -/
def sliceFrom (xs : List α) (a : Nat) : Res E (List α) := slice xs a xs.length

/-- `xs.resize(n, x)`. -/
def resize (xs : List α) (n : Nat) (x : α) : List α :=
  xs.take n ++ List.replicate (n - xs.length) x

/-- `xs[i]`. -/
def index (xs : List α) (i : Nat) : Res E α :=
  match xs[i]? with
  | some x => .ok x
  | none => .error (.panic .index)

/-- `a - b` on `usize`. -/
def subUsize (a b : Nat) : Res E Nat :=
  if b ≤ a then .ok (a - b) else .error (.panic .overflow)

/-- `a + b` on `u16`. -/
def addU16 (a b : UInt16) : Res E UInt16 :=
  if a.toNat + b.toNat < 2 ^ 16 then .ok (a + b) else .error (.panic .overflow)

/-- `x.expect(msg)`. -/
def expect (msg : String) (x : Res E α) : Res E α :=
  match x with
  | .error (.err _) => .error (.panic (.expect msg))
  | _ => x

/-- `a.checked_sub(b)` on `usize`. -/
def checkedSub (a b : Nat) : Option Nat := if b ≤ a then some (a - b) else none

/-- `x.ok_or(e)?`. -/
def okOr (x : Option α) (e : E) : Res E α :=
  match x with
  | some a => .ok a
  | none => .error (.err e)

/-- `x.map_err(f)?`. -/
def mapErr (x : Except β α) (f : β → E) : Res E α :=
  match x with
  | .ok a => .ok a
  | .error b => .error (.err (f b))

/-- `u16::to_le_bytes` and `u16::to_be_bytes`. -/
def u16Bytes (o : ByteOrder) (x : UInt16) : List UInt8 := toBytes o 2 x.toNat

/-- `u32::to_le_bytes` and `u32::to_be_bytes`. -/
def u32Bytes (o : ByteOrder) (x : UInt32) : List UInt8 := toBytes o 4 x.toNat

/-- The `u16` in the two bytes from `bytes[i]` on. -/
def readU16 (o : ByteOrder) (bytes : List UInt8) (i : Nat) : Res E UInt16 := do
  let bs ← slice bytes i (i + 2)
  return UInt16.ofNat (ofBytes o bs)

/-- The `u32` in the four bytes from `bytes[i]` on. -/
def readU32 (o : ByteOrder) (bytes : List UInt8) (i : Nat) : Res E UInt32 := do
  let bs ← slice bytes i (i + 4)
  return UInt32.ofNat (ofBytes o bs)

/-! ## Taking results apart -/

@[simp] theorem bind_ok (a : α) (f : α → Res E β) : (Except.ok a >>= f) = f a := rfl

@[simp] theorem bind_error (e : Stop E) (f : α → Res E β) :
    ((.error e : Res E α) >>= f) = .error e := rfl

@[simp] theorem pure_eq_ok (a : α) : (pure a : Res E α) = .ok a := rfl

theorem bind_eq_ok {x : Res E α} {f : α → Res E β} {b : β} :
    (x >>= f) = .ok b ↔ ∃ a, x = .ok a ∧ f a = .ok b := by
  cases x with
  | error e => simp
  | ok a => simp

@[simp] theorem failIf_eq_ok {p : Prop} [Decidable p] {e : E} {u : Unit} :
    failIf p e = .ok u ↔ ¬ p := by
  unfold failIf
  split <;> simp [*]

theorem length_resize (xs : List α) (n : Nat) (x : α) : (resize xs n x).length = n := by
  rw [resize, List.length_append, List.length_take, List.length_replicate]
  omega

theorem take_resize {xs : List α} {n : Nat} (h : xs.length ≤ n) (x : α) :
    (resize xs n x).take xs.length = xs := by
  rw [resize, List.take_of_length_le h, List.take_left]

theorem failIf_of_not {p : Prop} [Decidable p] (e : E) (h : ¬ p) : failIf p e = .ok () := by
  rw [failIf_eq_ok]; exact h

theorem failIf_of {p : Prop} [Decidable p] (e : E) (h : p) : failIf p e = .error (.err e) := by
  simp only [failIf, h, if_true]

/-- What a successful `xs[a..b]` found. -/
theorem slice_eq_ok {xs ys : List α} {a b : Nat} :
    (slice xs a b : Res E (List α)) = .ok ys ↔
      a ≤ b ∧ b ≤ xs.length ∧ ys.length = b - a ∧ At xs a ys := by
  unfold slice
  split
  · rename_i h
    have hl : ((xs.drop a).take (b - a)).length = b - a := by
      rw [List.length_take, List.length_drop]
      omega
    simp only [Except.ok.injEq, h.1, h.2, true_and, at_iff_take]
    constructor
    · rintro rfl
      exact ⟨hl, by rw [hl]⟩
    · rintro ⟨hy, h⟩
      rw [← h, hy]
  · rename_i h
    simp only [reduceCtorEq, false_iff]
    exact fun h' => h ⟨h'.1, h'.2.1⟩

/-- What a successful `xs[a..]` found. -/
theorem sliceFrom_eq_ok {xs ys : List α} {a : Nat} :
    (sliceFrom xs a : Res E (List α)) = .ok ys ↔ a ≤ xs.length ∧ xs.drop a = ys := by
  rw [sliceFrom, slice_eq_ok]
  constructor
  · rintro ⟨ha, -, hl, h⟩
    exact ⟨ha, h.drop_eq (by omega)⟩
  · rintro ⟨ha, rfl⟩
    exact ⟨ha, Nat.le_refl _, List.length_drop, at_drop xs a⟩

/-- What a successful `xs[i]` found. -/
theorem index_eq_ok {xs : List α} {i : Nat} {x : α} :
    (index xs i : Res E α) = .ok x ↔ At xs i [x] := by
  rw [at_singleton]
  unfold index
  split <;> simp [*]

/-- What a primitive that panics unless `p` holds returned. -/
theorem ite_eq_ok {p : Prop} [Decidable p] {x y : α} {stop : Stop E} :
    (if p then .ok x else .error stop : Res E α) = .ok y ↔ p ∧ y = x := by
  split
  · rename_i h
    simp only [Except.ok.injEq, h, true_and]
    exact eq_comm
  · rename_i h
    simp only [reduceCtorEq, h, false_and]

theorem subUsize_eq_ok {a b c : Nat} : (subUsize a b : Res E Nat) = .ok c ↔ b ≤ a ∧ c = a - b :=
  ite_eq_ok

theorem addU16_eq_ok {a b c : UInt16} :
    (addU16 a b : Res E UInt16) = .ok c ↔ a.toNat + b.toNat < 2 ^ 16 ∧ c = a + b := ite_eq_ok

theorem addU16_of_overflow {a b : UInt16} (h : 2 ^ 16 ≤ a.toNat + b.toNat) :
    (addU16 a b : Res E UInt16) = .error (.panic .overflow) := if_neg (Nat.not_lt.mpr h)

theorem checkedSub_eq_some {a b c : Nat} : checkedSub a b = some c ↔ b ≤ a ∧ c = a - b := by
  unfold checkedSub
  split
  · rename_i h
    simp only [Option.some.injEq, h, true_and]
    exact eq_comm
  · rename_i h
    simp only [reduceCtorEq, h, false_and]

@[simp] theorem okOr_eq_ok {x : Option α} {e : E} {a : α} : okOr x e = .ok a ↔ x = some a := by
  cases x <;> simp [okOr]

@[simp] theorem mapErr_eq_ok {x : Except β α} {f : β → E} {a : α} :
    mapErr x f = .ok a ↔ x = .ok a := by
  cases x <;> simp [mapErr]

/-! ## Integers in bytes -/

@[simp] theorem length_u16Bytes (o : ByteOrder) (x : UInt16) : (u16Bytes o x).length = 2 :=
  length_toBytes ..

@[simp] theorem length_u32Bytes (o : ByteOrder) (x : UInt32) : (u32Bytes o x).length = 4 :=
  length_toBytes ..

/-- What is read little-endian where `x` was written in the order `o`. -/
def reread16 (o : ByteOrder) (x : UInt16) : UInt16 := UInt16.ofNat (ofBytes .little (u16Bytes o x))

def reread32 (o : ByteOrder) (x : UInt32) : UInt32 := UInt32.ofNat (ofBytes .little (u32Bytes o x))

@[simp] theorem u16Bytes_reread (o : ByteOrder) (x : UInt16) :
    u16Bytes .little (reread16 o x) = u16Bytes o x :=
  Word.bytes_read (W := UInt16) .little (length_u16Bytes o x)

@[simp] theorem u32Bytes_reread (o : ByteOrder) (x : UInt32) :
    u32Bytes .little (reread32 o x) = u32Bytes o x :=
  Word.bytes_read (W := UInt32) .little (length_u32Bytes o x)

/-- `x` has the same bytes in both orders. -/
def Symmetric16 (x : UInt16) : Prop := u16Bytes .big x = u16Bytes .little x

def Symmetric32 (x : UInt32) : Prop := u32Bytes .big x = u32Bytes .little x

instance (x : UInt16) : Decidable (Symmetric16 x) := inferInstanceAs (Decidable (_ = _))

instance (x : UInt32) : Decidable (Symmetric32 x) := inferInstanceAs (Decidable (_ = _))

/-- An integer is read as it was written if its bytes are the same in the order
of the writer and in that of the reader. -/
theorem reread16_eq_iff {o : ByteOrder} {x : UInt16} :
    reread16 o x = x ↔ o = .little ∨ Symmetric16 x :=
  Word.read_bytes_eq_iff.trans toBytes_eq_little_iff

theorem reread32_eq_iff {o : ByteOrder} {x : UInt32} :
    reread32 o x = x ↔ o = .little ∨ Symmetric32 x :=
  Word.read_bytes_eq_iff.trans toBytes_eq_little_iff

/-- What a successful read of a machine integer found. -/
theorem slice_word_eq_ok {W : Type} {n : Nat} [Word W n] {o : ByteOrder} {bytes : List UInt8}
    {i : Nat} {x : W} :
    (slice bytes i (i + n) >>= fun bs => return Word.read o bs : Res E W) = .ok x ↔
      i + n ≤ bytes.length ∧ At bytes i (Word.bytes o x) := by
  simp only [bind_eq_ok, slice_eq_ok, pure_eq_ok, Except.ok.injEq]
  constructor
  · rintro ⟨bs, ⟨-, hl, hbs, h⟩, rfl⟩
    rw [Word.bytes_read o (by omega)]
    exact ⟨hl, h⟩
  · rintro ⟨hl, h⟩
    exact ⟨_, ⟨by omega, hl, by rw [Word.length_bytes]; omega, h⟩, Word.read_bytes o x⟩

/-- Where there is room for a machine integer there is one. -/
theorem exists_at_word {W : Type} {n : Nat} [Word W n] (o : ByteOrder) {bytes : List UInt8} {i : Nat}
    (h : i + n ≤ bytes.length) : ∃ x : W, At bytes i (Word.bytes o x) := by
  refine ⟨Word.read o ((bytes.drop i).take n), ?_⟩
  rw [Word.bytes_read o (by rw [List.length_take, List.length_drop]; omega)]
  exact at_take_drop _ _ _

theorem readU16_eq_ok {o : ByteOrder} {bytes : List UInt8} {i : Nat} {x : UInt16} :
    (readU16 o bytes i : Res E _) = .ok x ↔ i + 2 ≤ bytes.length ∧ At bytes i (u16Bytes o x) :=
  slice_word_eq_ok

theorem readU32_eq_ok {o : ByteOrder} {bytes : List UInt8} {i : Nat} {x : UInt32} :
    (readU32 o bytes i : Res E _) = .ok x ↔ i + 4 ≤ bytes.length ∧ At bytes i (u32Bytes o x) :=
  slice_word_eq_ok

/-! ## Functions that return -/

/-- `x` is a value or an error value: the function neither panicked nor is
still in a loop. -/
inductive Returns : Res E α → Prop where
  | ok (a : α) : Returns (.ok a)
  | err (e : E) : Returns (.error (.err e))

namespace Returns

/-- The `Result` of a function that returns. -/
def toExcept : (x : Res E α) → Returns x → Except E α
  | .ok a, _ => .ok a
  | .error (.err e), _ => .error e
  | .error (.panic _), h => False.elim (by cases h)
  | .error .fuel, h => False.elim (by cases h)

theorem toExcept_eq_ok {x : Res E α} {h : Returns x} {a : α} : h.toExcept x = .ok a ↔ x = .ok a := by
  cases h <;> simp only [toExcept, Except.ok.injEq, reduceCtorEq]

theorem toExcept_eq_error {x : Res E α} {h : Returns x} {e : E} :
    h.toExcept x = .error e ↔ x = .error (.err e) := by
  cases h <;> simp only [toExcept, Except.error.injEq, Stop.err.injEq, reduceCtorEq]

theorem ne_panic {x : Res E α} (h : Returns x) (p : Panic) : x ≠ .error (.panic p) := by
  cases h <;> exact fun h => nomatch h

theorem bind {x : Res E α} {f : α → Res E β} (hx : Returns x) (hf : ∀ a, x = .ok a → Returns (f a)) :
    Returns (x >>= f) := by
  cases hx with
  | ok a => exact hf a rfl
  | err e => exact err e

theorem failIf (p : Prop) [Decidable p] (e : E) : Returns (failIf p e) := by
  unfold Rust.failIf
  split
  · exact err e
  · exact ok ()

theorem okOr (x : Option α) (e : E) : Returns (okOr x e) := by
  cases x with
  | some a => exact ok a
  | none => exact err e

theorem mapErr (x : Except β α) (f : β → E) : Returns (mapErr x f) := by
  cases x with
  | ok a => exact ok a
  | error b => exact err (f b)

theorem slice {xs : List α} {a b : Nat} (hab : a ≤ b) (hb : b ≤ xs.length) :
    Returns (slice xs a b : Res E _) := by
  rw [Rust.slice, if_pos ⟨hab, hb⟩]
  exact ok _

theorem sliceFrom {xs : List α} {a : Nat} (ha : a ≤ xs.length) :
    Returns (sliceFrom xs a : Res E _) := slice ha (Nat.le_refl _)

theorem index {xs : List α} {i : Nat} (hi : i < xs.length) : Returns (index xs i : Res E _) := by
  rw [Rust.index, List.getElem?_eq_getElem hi]
  exact ok _

theorem subUsize {a b : Nat} (h : b ≤ a) : Returns (subUsize a b : Res E _) := by
  rw [Rust.subUsize, if_pos h]
  exact ok _

theorem readU16 {o : ByteOrder} {bytes : List UInt8} {i : Nat} (h : i + 2 ≤ bytes.length) :
    Returns (readU16 o bytes i : Res E _) :=
  bind (slice (by omega) h) fun _ _ => ok _

theorem readU32 {o : ByteOrder} {bytes : List UInt8} {i : Nat} (h : i + 4 ≤ bytes.length) :
    Returns (readU32 o bytes i : Res E _) :=
  bind (slice (by omega) h) fun _ _ => ok _

end Returns

/-! ## The error values of a function -/

/-- The error values of `x` satisfy `P`. -/
def ErrorsIn (P : E → Prop) (x : Res E α) : Prop := ∀ e, x = .error (.err e) → P e

namespace ErrorsIn

variable {P : E → Prop}

theorem ok (a : α) : ErrorsIn P (.ok a : Res E α) := fun _ h => nomatch h

theorem err {e : E} (h : P e) : ErrorsIn P (.error (.err e) : Res E α) := fun _ h' => by
  cases h'
  exact h

theorem imp {P' : E → Prop} {x : Res E α} (h : ErrorsIn P x) (hP : ∀ e, P e → P' e) :
    ErrorsIn P' x := fun e he => hP e (h e he)

theorem bind {x : Res E α} {f : α → Res E β} (hx : ErrorsIn P x)
    (hf : ∀ a, x = .ok a → ErrorsIn P (f a)) : ErrorsIn P (x >>= f) := by
  cases x with
  | error stop =>
    intro e h
    exact hx e (by cases h; rfl)
  | ok a => exact hf a rfl

theorem failIf {p : Prop} [Decidable p] {e : E} (h : p → P e) : ErrorsIn P (failIf p e) := by
  unfold Rust.failIf
  split
  · rename_i hp
    exact err (h hp)
  · exact ok ()

theorem okOr {x : Option α} {e : E} (h : P e) : ErrorsIn P (okOr x e) := by
  cases x with
  | some a => exact ok a
  | none => exact err h

theorem mapErr {x : Except β α} {f : β → E} (h : ∀ b, P (f b)) : ErrorsIn P (mapErr x f) := by
  cases x with
  | ok a => exact ok a
  | error b => exact err (h b)

theorem slice (xs : List α) (a b : Nat) : ErrorsIn P (slice xs a b : Res E _) := by
  unfold Rust.slice
  split <;> exact fun _ h => nomatch h

theorem index (xs : List α) (i : Nat) : ErrorsIn P (index xs i : Res E _) := by
  unfold Rust.index
  split <;> exact fun _ h => nomatch h

theorem subUsize (a b : Nat) : ErrorsIn P (subUsize a b : Res E _) := by
  unfold Rust.subUsize
  split <;> exact fun _ h => nomatch h

theorem readU16 (o : ByteOrder) (bytes : List UInt8) (i : Nat) :
    ErrorsIn P (readU16 o bytes i : Res E _) := bind (slice _ _ _) fun _ _ => ok _

theorem readU32 (o : ByteOrder) (bytes : List UInt8) (i : Nat) :
    ErrorsIn P (readU32 o bytes i : Res E _) := bind (slice _ _ _) fun _ _ => ok _

end ErrorsIn

/-- `x` returns from every state. -/
def AlwaysReturns {σ : Type} (x : Eff (Stop E) σ α) : Prop := ∀ s, Returns (x.exec s).1

namespace AlwaysReturns

variable {σ : Type}

theorem pure (a : α) : AlwaysReturns (pure a : Eff (Stop E) σ α) := fun _ => .ok a

theorem throw (e : E) : AlwaysReturns (throw (.err e) : Eff (Stop E) σ α) := fun _ => .err e

theorem get : AlwaysReturns (get : Eff (Stop E) σ σ) := fun s => .ok s

theorem lift {x : Res E α} (h : Returns x) : AlwaysReturns (liftM x : Eff (Stop E) σ α) := fun _ => h

theorem lift_bind {x : Res E α} {f : α → Eff (Stop E) σ β} (hx : Returns x)
    (hf : ∀ a, x = .ok a → AlwaysReturns (f a)) : AlwaysReturns ((liftM x : Eff (Stop E) σ α) >>= f) := by
  intro s
  cases hx with
  | ok a => exact hf a rfl s
  | err e => exact .err e

theorem bind {x : Eff (Stop E) σ α} {f : α → Eff (Stop E) σ β} (hx : AlwaysReturns x)
    (hf : ∀ a, AlwaysReturns (f a)) : AlwaysReturns (x >>= f) := by
  intro s
  rw [Eff.exec_bind]
  have h := hx s
  rcases hr : x.exec s with ⟨e | a, s'⟩
  · rw [hr] at h
    cases h
    exact .err _
  · exact hf a s'

end AlwaysReturns

end Rust
