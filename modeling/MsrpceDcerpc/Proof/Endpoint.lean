import MsrpceDcerpc.Model.NcacnNp

/-!
# The path of an endpoint

`NcacnNpEndpoint::parse` takes a path apart, `ipc_share` and `pipe_path` put
two other paths together. `parse_eq_ok` says which strings are accepted: the
paths (`uncPath`) of the endpoints whose server and pipe are one component of
a path each (`WellFormed`).

A path is also the list of its components (`path`), and `parse_eq_ok_iff_split`
says the same of these. The paths built from an endpoint have its server and
its pipe at the places that are meant for them (`split_ipcShare`,
`split_pipePath`).
-/

namespace Rpce

open Rust

/-- One component of a path. -/
structure PathComponent (s : String) : Prop where
  ne_empty : s ≠ ""
  not_mem : '\\' ∉ s.toList

namespace NcacnNpEndpoint

variable {value : String} {e e' : NcacnNpEndpoint}

/-- The path of an endpoint. -/
def uncPath (e : NcacnNpEndpoint) : String := "\\\\" ++ e.server ++ e.pipePath

/-- The endpoints `parse` returns. -/
structure WellFormed (e : NcacnNpEndpoint) : Prop where
  server : PathComponent e.server
  pipe : PathComponent e.pipe

theorem uncPath_eq (e : NcacnNpEndpoint) :
    e.uncPath = "\\\\" ++ (e.server ++ String.singleton '\\' ++ ("pipe\\" ++ e.pipe)) := by
  have hpipe : "\\pipe\\" = String.singleton '\\' ++ "pipe\\" := by decide
  rw [uncPath, pipePath, hpipe]
  simp only [String.append_assoc]

/-- What `parse` accepts, and what it returns then. -/
theorem parse_eq_ok : parse value = .ok e ↔ value = e.uncPath ∧ e.WellFormed := by
  simp only [parse, bind_eq_ok, okOr_eq_ok, stripPrefix_eq_some, splitOnce_eq_some, failIf_eq_ok,
    Prod.exists, pure_eq_ok, Except.ok.injEq, not_or]
  constructor
  · rintro ⟨rest, hvalue, server, path, ⟨hrest, hserver⟩, pipe, hpath, -, ⟨hs, hp, hpipe⟩, he⟩
    subst he hpath hrest hvalue
    exact ⟨(uncPath_eq ⟨server, pipe⟩).symm, ⟨hs, hserver⟩, ⟨hp, hpipe⟩⟩
  · rintro ⟨hvalue, hserver, hpipe⟩
    exact ⟨_, hvalue.trans (uncPath_eq e), e.server, _, ⟨rfl, hserver.not_mem⟩, e.pipe, rfl, (),
      ⟨hserver.ne_empty, hpipe.ne_empty, hpipe.not_mem⟩, rfl⟩

theorem parse_uncPath (h : e.WellFormed) : parse e.uncPath = .ok e := parse_eq_ok.mpr ⟨rfl, h⟩

/-- A path is that of one endpoint. -/
theorem eq_of_uncPath (h : e.WellFormed) (h' : e'.WellFormed) (hpath : e.uncPath = e'.uncPath) :
    e = e' := by
  have hparse := parse_uncPath h
  rw [hpath, parse_uncPath h'] at hparse
  exact (Except.ok.inj hparse).symm

/-- What is not accepted is reported, with one error. -/
theorem parse_ok_or_error (value : String) :
    (∃ e, parse value = .ok e) ∨ parse value = .error (.err invalidEndpoint) := by
  have herr : ErrorsIn (· = invalidEndpoint) (parse value) :=
    .bind (.okOr rfl) fun _ _ => .bind (.okOr rfl) fun _ _ => .bind (.okOr rfl) fun _ _ =>
      .bind (.failIf fun _ => rfl) fun _ _ => .ok _
  have hreturns : Returns (parse value) :=
    .bind (.okOr _ _) fun _ _ => .bind (.okOr _ _) fun _ _ => .bind (.okOr _ _) fun _ _ =>
      .bind (.failIf _ _) fun _ _ => .ok _
  cases hparse : parse value with
  | ok e => exact .inl ⟨e, rfl⟩
  | error stop =>
    rw [hparse] at hreturns herr
    cases hreturns with
    | err error => exact .inr (by rw [herr error rfl])

/-! ## The components of a path -/

/-- The path with these components. -/
def path (components : List String) : String := (String.singleton '\\').intercalate components

theorem ipcShare_eq_path (e : NcacnNpEndpoint) : e.ipcShare = path ["", "", e.server, "IPC$"] := by
  have hstart : "\\\\" = String.singleton '\\' ++ String.singleton '\\' := by decide
  have hipc : "\\IPC$" = String.singleton '\\' ++ "IPC$" := by decide
  rw [ipcShare, hstart, hipc, path]
  simp only [String.intercalate_cons_cons, String.intercalate_singleton, String.append_assoc,
    String.empty_append]

theorem pipePath_eq_path (e : NcacnNpEndpoint) : e.pipePath = path ["", "pipe", e.pipe] := by
  have hpipe : "\\pipe\\" = String.singleton '\\' ++ "pipe" ++ String.singleton '\\' := by decide
  rw [pipePath, hpipe, path]
  simp only [String.intercalate_cons_cons, String.intercalate_singleton, String.append_assoc,
    String.empty_append]

theorem uncPath_eq_path (e : NcacnNpEndpoint) :
    e.uncPath = path ["", "", e.server, "pipe", e.pipe] := by
  have hstart : "\\\\" = String.singleton '\\' ++ String.singleton '\\' := by decide
  rw [uncPath, pipePath_eq_path, hstart, path, path]
  simp only [String.intercalate_cons_cons, String.intercalate_singleton, String.append_assoc,
    String.empty_append]

theorem split_ipcShare (h : e.WellFormed) :
    split e.ipcShare '\\' = ["", "", e.server, "IPC$"] := by
  rw [ipcShare_eq_path, path, split_intercalate (List.cons_ne_nil _ _)]
  simp only [List.forall_mem_cons, h.server.not_mem, not_false_eq_true, true_and]
  decide

theorem split_pipePath (h : e.WellFormed) : split e.pipePath '\\' = ["", "pipe", e.pipe] := by
  rw [pipePath_eq_path, path, split_intercalate (List.cons_ne_nil _ _)]
  simp only [List.forall_mem_cons, h.pipe.not_mem, not_false_eq_true, true_and]
  decide

theorem split_uncPath (h : e.WellFormed) :
    split e.uncPath '\\' = ["", "", e.server, "pipe", e.pipe] := by
  rw [uncPath_eq_path, path, split_intercalate (List.cons_ne_nil _ _)]
  simp only [List.forall_mem_cons, h.server.not_mem, h.pipe.not_mem, not_false_eq_true, true_and]
  decide

/-- `parse` on the components of a path: it accepts those of a pipe on a server
that are not empty. -/
theorem parse_eq_ok_iff_split : parse value = .ok e ↔
    split value '\\' = ["", "", e.server, "pipe", e.pipe] ∧ e.server ≠ "" ∧ e.pipe ≠ "" := by
  rw [parse_eq_ok]
  constructor
  · rintro ⟨hvalue, hserver, hpipe⟩
    exact ⟨hvalue ▸ split_uncPath ⟨hserver, hpipe⟩, hserver.ne_empty, hpipe.ne_empty⟩
  · rintro ⟨hsplit, hserver, hpipe⟩
    have hvalue := intercalate_split value '\\'
    have hmem : ∀ part ∈ ["", "", e.server, "pipe", e.pipe], '\\' ∉ part.toList :=
      fun part hpart => not_mem_of_mem_split (hsplit ▸ hpart)
    rw [hsplit] at hvalue
    exact ⟨hvalue.symm.trans (uncPath_eq_path e).symm, ⟨hserver, hmem _ (by simp)⟩,
      ⟨hpipe, hmem _ (by simp)⟩⟩

/-- **The endpoint parser** accepts exactly the paths of the endpoints whose
server and pipe are one component each, is inverse to the printing of these,
and finds no component in a path besides these two. -/
theorem parse_iff_path :
    (∀ value e, parse value = .ok e ↔ value = "\\\\" ++ e.server ++ e.pipePath ∧
      (e.server ≠ "" ∧ '\\' ∉ e.server.toList) ∧ (e.pipe ≠ "" ∧ '\\' ∉ e.pipe.toList)) ∧
    (∀ e : NcacnNpEndpoint, e.WellFormed → parse e.uncPath = .ok e) ∧
    (∀ e e' : NcacnNpEndpoint, e.WellFormed → e'.WellFormed → e.uncPath = e'.uncPath → e = e') ∧
    (∀ value e, parse value = .ok e →
      split e.ipcShare '\\' = ["", "", e.server, "IPC$"] ∧
      split e.pipePath '\\' = ["", "pipe", e.pipe]) ∧
    ∀ value, (∃ e, parse value = .ok e) ∨ parse value = .error (.err invalidEndpoint) := by
  refine ⟨fun value e => ?_, fun e => parse_uncPath, fun e e' => eq_of_uncPath, ?_, parse_ok_or_error⟩
  · rw [parse_eq_ok]
    constructor
    · rintro ⟨hvalue, hserver, hpipe⟩
      exact ⟨hvalue, ⟨hserver.ne_empty, hserver.not_mem⟩, hpipe.ne_empty, hpipe.not_mem⟩
    · rintro ⟨hvalue, hserver, hpipe⟩
      exact ⟨hvalue, ⟨hserver.1, hserver.2⟩, ⟨hpipe.1, hpipe.2⟩⟩
  · intro value e h
    have hwell := (parse_eq_ok.mp h).2
    exact ⟨split_ipcShare hwell, split_pipePath hwell⟩

/-- A server and a pipe that are both called `pipe`. -/
theorem parse_iff_path_pipe : parse "\\\\pipe\\pipe\\pipe" = .ok ⟨"pipe", "pipe"⟩ :=
  (parse_iff_path.1 _ _).mpr ⟨by decide, by decide, by decide⟩

end NcacnNpEndpoint

end Rpce
