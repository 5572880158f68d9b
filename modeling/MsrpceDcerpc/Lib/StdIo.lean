import Mathlib.Data.List.Basic

/-!
# The loops of `std::io`

`Read` and `Write` as `std::io` has them: one call may read or write less than
it was asked to, and may be interrupted. `readExact` and `writeAll` are their
provided methods, loops over such calls.

An `Endpoint` is what such a stream leads to: what can be read from it, and
what becomes of it when bytes are written. Where a stream `Reaches` one, the
loops do to the endpoint what one read or write of all the bytes would do,
however the stream cuts them up, or a part of it when they fail
(`Reaches.readExact`, `Reaches.writeAll`). They do not fail where single calls
are only ever interrupted (`exists_readExact`, `writeAll_ok`), except at the
end of what can be read (`readExact_at_end`).
-/

namespace StdIo

/-- `std::io::Error`: whether its kind is `Interrupted`, and its text. -/
structure IoError where
  interrupted : Bool
  text : String
  deriving DecidableEq, Repr

/-- The error of a `read_exact` that reached the end. -/
def unexpectedEof : IoError := { interrupted := false, text := "failed to fill whole buffer" }

/-- The error of a `write_all` of which nothing more was taken. -/
def writeZero : IoError := { interrupted := false, text := "failed to write whole buffer" }

/-- `std::io::Read`. A stream is not interrupted for ever. -/
class Read (T : Type) where
  read : T → (n : Nat) → Except IoError { bytes : List UInt8 // bytes.length ≤ n } × T
  readInterruptions : T → Nat
  read_interrupted : ∀ {t n e t'}, read t n = (.error e, t') → e.interrupted = true →
    readInterruptions t' < readInterruptions t

/-- `std::io::Write`. -/
class Write (T : Type) where
  write : T → (bytes : List UInt8) → Except IoError { n : Nat // n ≤ bytes.length } × T
  flush : T → Except IoError Unit × T
  writeInterruptions : T → Nat
  write_interrupted : ∀ {t bytes e t'}, write t bytes = (.error e, t') → e.interrupted = true →
    writeInterruptions t' < writeInterruptions t

/-! ## The loops -/

section Loops

variable {T : Type}

open Read Write

/-- `Read::read_exact`, on a buffer of `n` bytes. -/
def readExact [Read T] (t : T) (n : Nat) :
    Except IoError { bytes : List UInt8 // bytes.length = n } × T :=
  if hn : n = 0 then (.ok ⟨[], hn.symm⟩, t)
  else match _h : read t n with
    | (.ok ⟨bytes, hle⟩, t') =>
      if _hne : bytes = [] then (.error unexpectedEof, t')
      else match readExact t' (n - bytes.length) with
        | (.ok ⟨rest, hrest⟩, t'') =>
          (.ok ⟨bytes ++ rest, by rw [List.length_append, hrest, Nat.add_sub_cancel' hle]⟩, t'')
        | (.error e, t'') => (.error e, t'')
    | (.error e, t') => if _hi : e.interrupted = true then readExact t' n else (.error e, t')
termination_by (n, readInterruptions t)
decreasing_by
  · have := List.length_pos_iff.mpr _hne
    exact Prod.Lex.left _ _ (by omega)
  · exact Prod.Lex.right _ (read_interrupted _h _hi)

/-- `Write::write_all`. -/
def writeAll [Write T] (t : T) (bytes : List UInt8) : Except IoError Unit × T :=
  if _hne : bytes = [] then (.ok (), t)
  else match _h : write t bytes with
    | (.ok ⟨n, _⟩, t') =>
      if _hn : n = 0 then (.error writeZero, t') else writeAll t' (bytes.drop n)
    | (.error e, t') => if _hi : e.interrupted = true then writeAll t' bytes else (.error e, t')
termination_by (bytes.length, writeInterruptions t)
decreasing_by
  · have := List.length_pos_iff.mpr _hne
    exact Prod.Lex.left _ _ (by rw [List.length_drop]; omega)
  · exact Prod.Lex.right _ (write_interrupted _h _hi)

end Loops

/-! ## Endpoints -/

/-- What a stream leads to: the bytes that can be read from it, how it is once
`n` of them were read, and once bytes were written. -/
class Endpoint (ω : Type) where
  unread : ω → List UInt8
  skip : ω → Nat → ω
  put : ω → List UInt8 → ω
  unread_skip : ∀ w n, unread (skip w n) = (unread w).drop n
  skip_zero : ∀ w, skip w 0 = w
  skip_skip : ∀ w m n, skip (skip w m) n = skip w (m + n)
  put_nil : ∀ w, put w [] = w
  put_put : ∀ w a b, put (put w a) b = put w (a ++ b)

section Laws

variable {T ω : Type} [Read T] [Write T] [Endpoint ω]

open Read Write Endpoint

/-- A call that reads or writes some bytes does so at the endpoint, and one that
fails does nothing. -/
structure Reaches (endpoint : T → ω) : Prop where
  read_ok : ∀ {t n bytes t'}, read t n = (.ok bytes, t') →
    bytes.val = (unread (endpoint t)).take bytes.val.length ∧
      endpoint t' = skip (endpoint t) bytes.val.length
  read_error : ∀ {t n e t'}, read t n = (.error e, t') → endpoint t' = endpoint t
  write_ok : ∀ {t bytes n t'}, write t bytes = (.ok n, t') →
    endpoint t' = put (endpoint t) (bytes.take n.val)
  write_error : ∀ {t bytes e t'}, write t bytes = (.error e, t') → endpoint t' = endpoint t
  flush : ∀ t : T, endpoint (flush t).2 = endpoint t

/-- While there is something to read, a read can only be interrupted. -/
structure ReadsOn (endpoint : T → ω) : Prop where
  progress : ∀ {t n bytes t'}, 0 < n → unread (endpoint t) ≠ [] → read t n = (.ok bytes, t') →
    bytes.val ≠ []
  interrupted : ∀ {t n e t'}, unread (endpoint t) ≠ [] → read t n = (.error e, t') →
    e.interrupted = true

/-- A read can only be interrupted, at the end of what can be read too. -/
structure ReadsToEnd (endpoint : T → ω) : Prop extends ReadsOn endpoint where
  at_end : ∀ {t n e t'}, unread (endpoint t) = [] → read t n = (.error e, t') → e.interrupted = true

end Laws

/-- All that was ever put to an endpoint. -/
structure Logs {ω : Type} [Endpoint ω] (out : ω → List UInt8) : Prop where
  put : ∀ w bytes, out (Endpoint.put w bytes) = out w ++ bytes
  skip : ∀ w n, out (Endpoint.skip w n) = out w

/-- A write can only be interrupted. -/
structure WritesOn (T : Type) [Write T] : Prop where
  progress : ∀ {t : T} {bytes n t'}, bytes ≠ [] → Write.write t bytes = (.ok n, t') → n.val ≠ 0
  interrupted : ∀ {t : T} {bytes e t'}, Write.write t bytes = (.error e, t') → e.interrupted = true
  flush : ∀ t : T, (Write.flush t).1 = .ok ()

/-! ## What the loops do -/

section

variable {T ω : Type} [Endpoint ω]

open Read Write Endpoint

/-- What `read_exact` did at an endpoint: it read all it was asked to, or failed
after less. -/
inductive ReadAt (w : ω) (n : Nat) :
    Except IoError { bytes : List UInt8 // bytes.length = n } → ω → Prop where
  | ok {bytes} : bytes.val = (unread w).take n → ReadAt w n (.ok bytes) (skip w n)
  | error {e k} : k < n → k ≤ (unread w).length → e.interrupted = false →
      ReadAt w n (.error e) (skip w k)

/-- What `write_all` did at an endpoint: it wrote all, or failed after less. -/
inductive WrittenAt (w : ω) (bytes : List UInt8) : Except IoError Unit → ω → Prop where
  | ok : WrittenAt w bytes (.ok ()) (put w bytes)
  | error {e k} : k < bytes.length → e.interrupted = false →
      WrittenAt w bytes (.error e) (put w (bytes.take k))

section Safety

variable [Read T] [Write T] {endpoint : T → ω}

theorem length_le_of_eq_take {xs ys : List UInt8} (h : xs = ys.take xs.length) :
    xs.length ≤ ys.length := by
  have hl := congrArg List.length h
  rw [List.length_take] at hl
  omega

/-- One read of all the bytes. -/
theorem Reaches.readExact (h : Reaches endpoint) (t : T) (n : Nat) :
    ReadAt (endpoint t) n (readExact t n).1 (endpoint (readExact t n).2) := by
  fun_induction StdIo.readExact t n with
  | case1 t =>
    have hok : ReadAt (endpoint t) 0 (.ok ⟨[], rfl⟩) (skip (endpoint t) 0) := .ok rfl
    rwa [skip_zero] at hok
  | case2 t n hn t' hle hread =>
    obtain ⟨-, ht⟩ := h.read_ok hread
    rw [ht]
    exact .error (Nat.pos_of_ne_zero hn) (Nat.zero_le _) rfl
  | case3 t n _ bytes hle t' hread _ rest hrest t'' heq ih =>
    obtain ⟨hbytes, ht⟩ := h.read_ok hread
    rw [heq, ht] at ih
    generalize endpoint t'' = w at ih ⊢
    cases ih with
    | ok hrest =>
      rw [skip_skip, Nat.add_sub_cancel' hle]
      rw [unread_skip] at hrest
      refine .ok ?_
      show bytes ++ rest = (unread (endpoint t)).take n
      rw [← Nat.add_sub_cancel' hle, List.take_add, ← hbytes, ← hrest]
  | case4 t n _ bytes hle t' hread hne e t'' heq ih =>
    obtain ⟨hbytes, ht⟩ := h.read_ok hread
    have hlen := length_le_of_eq_take hbytes
    rw [heq, ht] at ih
    generalize endpoint t'' = w at ih ⊢
    cases ih with
    | error hk hk' hi =>
      rw [unread_skip, List.length_drop] at hk'
      dsimp only at hlen hk' ⊢
      rw [skip_skip]
      exact .error (by omega) (by omega) hi
  | case5 t n _ e t' hread _ ih => rwa [h.read_error hread] at ih
  | case6 t n hn e t' hread hi =>
    have herror : ReadAt (endpoint t) n (.error e) (skip (endpoint t) 0) :=
      .error (Nat.pos_of_ne_zero hn) (Nat.zero_le _) ((Bool.not_eq_true _).mp hi)
    rw [skip_zero] at herror
    rwa [h.read_error hread]

/-- One write of all the bytes. -/
theorem Reaches.writeAll (h : Reaches endpoint) (t : T) (bytes : List UInt8) :
    WrittenAt (endpoint t) bytes (writeAll t bytes).1 (endpoint (writeAll t bytes).2) := by
  fun_induction StdIo.writeAll t bytes with
  | case1 t =>
    have hok : WrittenAt (endpoint t) [] (.ok ()) (put (endpoint t) []) := .ok
    rwa [put_nil] at hok
  | case2 t bytes hne t' hle hwrite =>
    rw [h.write_ok hwrite]
    exact .error (List.length_pos_iff.mpr hne) rfl
  | case3 t bytes _ n hle t' hwrite hn ih =>
    rw [h.write_ok hwrite] at ih
    generalize (StdIo.writeAll t' (bytes.drop n)).1 = r at ih ⊢
    generalize endpoint (StdIo.writeAll t' (bytes.drop n)).2 = w at ih ⊢
    cases ih with
    | ok =>
      rw [put_put, List.take_append_drop]
      exact .ok
    | @error e k hk hi =>
      rw [List.length_drop] at hk
      rw [put_put, ← List.take_add]
      refine .error ?_ hi
      dsimp only
      omega
  | case4 t bytes _ e t' hwrite _ ih => rwa [h.write_error hwrite] at ih
  | case5 t bytes hne e t' hwrite hi =>
    have herror : WrittenAt (endpoint t) bytes (.error e) (put (endpoint t) (bytes.take 0)) :=
      .error (List.length_pos_iff.mpr hne) ((Bool.not_eq_true _).mp hi)
    rw [List.take_zero, put_nil] at herror
    rwa [h.write_error hwrite]

theorem Reaches.readExact_ok (h : Reaches endpoint) {t t' : T} {n : Nat}
    {bytes : { bytes : List UInt8 // bytes.length = n }} (hr : StdIo.readExact t n = (.ok bytes, t')) :
    bytes.val = (unread (endpoint t)).take n ∧ n ≤ (unread (endpoint t)).length ∧
      endpoint t' = skip (endpoint t) n := by
  have hat := h.readExact t n
  rw [hr] at hat
  generalize hw : endpoint t' = w at hat ⊢
  cases hat with
  | ok hval =>
    refine ⟨hval, ?_, rfl⟩
    have hlen := congrArg List.length hval
    rw [bytes.property, List.length_take] at hlen
    omega

/-- What `write_all` put to an endpoint: the bytes, or the first of them. -/
theorem Reaches.exists_put (h : Reaches endpoint) (t : T) (bytes : List UInt8) :
    ∃ k, endpoint (StdIo.writeAll t bytes).2 = put (endpoint t) (bytes.take k) ∧
      ((StdIo.writeAll t bytes).1 = .ok () → bytes.take k = bytes) := by
  have hat := h.writeAll t bytes
  generalize (StdIo.writeAll t bytes).1 = r at hat ⊢
  generalize endpoint (StdIo.writeAll t bytes).2 = w at hat ⊢
  cases hat with
  | ok => exact ⟨bytes.length, by rw [List.take_length], fun _ => List.take_length⟩
  | @error e k hk hi => exact ⟨k, rfl, fun h => by cases h⟩

/-- What `read_exact` skipped at an endpoint. -/
theorem Reaches.exists_skip (h : Reaches endpoint) (t : T) (n : Nat) :
    ∃ k, endpoint (StdIo.readExact t n).2 = skip (endpoint t) k := by
  have hat := h.readExact t n
  generalize (StdIo.readExact t n).1 = r at hat
  generalize endpoint (StdIo.readExact t n).2 = w at hat ⊢
  cases hat with
  | ok => exact ⟨n, rfl⟩
  | @error e k hk hk' hi => exact ⟨k, rfl⟩

end Safety

section Progress

variable [Read T] [Write T] {endpoint : T → ω}

/-- What can be read is read. -/
theorem exists_readExact (h : Reaches endpoint) (hp : ReadsOn endpoint) (t : T) {n : Nat}
    (hn : n ≤ (unread (endpoint t)).length) :
    ∃ bytes t', readExact t n = (.ok bytes, t') := by
  fun_induction readExact t n with
  | case1 t => exact ⟨_, _, rfl⟩
  | case2 t n hn0 t' hle hread =>
    have hne : unread (endpoint t) ≠ [] := List.length_pos_iff.mp (by omega)
    exact absurd rfl (hp.progress (Nat.pos_of_ne_zero hn0) hne hread)
  | case3 t n _ bytes hle t' hread _ rest hrest t'' heq ih => exact ⟨_, _, rfl⟩
  | case4 t n hn0 bytes hle t' hread hne e t'' heq ih =>
    obtain ⟨hbytes, ht⟩ := h.read_ok hread
    rw [ht, unread_skip, List.length_drop] at ih
    obtain ⟨_, _, hok⟩ := ih (by dsimp only; omega)
    cases heq.symm.trans hok
  | case5 t n _ e t' hread _ ih =>
    rw [h.read_error hread] at ih
    exact ih hn
  | case6 t n hn0 e t' hread hi =>
    have hne : unread (endpoint t) ≠ [] := List.length_pos_iff.mp (by omega)
    exact absurd (hp.interrupted hne hread) hi

/-- A read of more than there is reaches the end. -/
theorem readExact_at_end (h : Reaches endpoint) (hp : ReadsToEnd endpoint) (t : T) {n : Nat}
    (hn : (unread (endpoint t)).length < n) :
    ∃ t', readExact t n = (.error unexpectedEof, t') ∧
      endpoint t' = skip (endpoint t) (unread (endpoint t)).length := by
  fun_induction readExact t n with
  | case1 t => cases hn
  | case2 t n hn0 t' hle hread =>
    have hnil : unread (endpoint t) = [] := by
      by_contra hne
      exact hp.progress (Nat.pos_of_ne_zero hn0) hne hread rfl
    refine ⟨t', rfl, ?_⟩
    rw [(h.read_ok hread).2, hnil]
  | case3 t n _ bytes hle t' hread _ rest hrest t'' heq ih =>
    obtain ⟨hbytes, ht⟩ := h.read_ok hread
    have hlen := length_le_of_eq_take hbytes
    rw [ht, unread_skip, List.length_drop] at ih
    obtain ⟨_, herror, -⟩ := ih (by dsimp only at hlen ⊢; omega)
    cases heq.symm.trans herror
  | case4 t n hn0 bytes hle t' hread hne e t'' heq ih =>
    obtain ⟨hbytes, ht⟩ := h.read_ok hread
    have hlen := length_le_of_eq_take hbytes
    rw [ht, unread_skip, List.length_drop] at ih
    obtain ⟨t₁, herror, hend⟩ := ih (by dsimp only at hlen ⊢; omega)
    cases heq.symm.trans herror
    refine ⟨t'', rfl, ?_⟩
    rw [hend, skip_skip, Nat.add_sub_cancel' hlen]
  | case5 t n _ e t' hread _ ih =>
    rw [h.read_error hread] at ih
    exact ih hn
  | case6 t n hn0 e t' hread hi =>
    refine absurd ?_ hi
    by_cases hnil : unread (endpoint t) = []
    · exact hp.at_end hnil hread
    · exact hp.interrupted hnil hread

end Progress

/-- Everything is written. -/
theorem writeAll_ok [Write T] (hp : WritesOn T) (t : T) (bytes : List UInt8) : (writeAll t bytes).1 = .ok () := by
  fun_induction writeAll t bytes with
  | case1 t => rfl
  | case2 t bytes hne t' hle hwrite => exact absurd rfl (hp.progress hne hwrite)
  | case3 t bytes _ n hle t' hwrite hn ih => exact ih
  | case4 t bytes _ e t' hwrite _ ih => exact ih
  | case5 t bytes hne e t' hwrite hi => exact absurd (hp.interrupted hwrite) hi

end

end StdIo
