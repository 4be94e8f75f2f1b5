/-
  TreeShell.Proofs.Session.Refusal — when a builtin fails.

  What each builtin does is said once, in terms of what is at the path that its operand
  names (`run_cd_destination`, `run_ls_children`, `run_mkdir_isOk_iff`, `run_touch_isOk_iff`,
  `run_cat_node`).
  `Builtin.Refuses` lists what the builtins are to fail for. That no other failure comes up
  rests on the shell being settled: `ls` has a directory to list, and a file that `touch`
  empties is below a directory.

  Main statement: after any operations on a new session the builtins fail for what they
  refuse and for nothing else (`isError_iff_refuses`).
-/

import TreeShell.Proofs.Session.Run

namespace TreeShell

open TreeShell.Path

/-! ## Operands -/

namespace Shell

/-- Where `cd` leads: a tilde alone, or in front of a slash, stands for the home directory. -/
def destination (s : Shell) (arg : Text) : Text :=
  let home := s.environment.get "HOME"
  resolve (if arg = ['~'] then home else if Text.startsWith "~/" arg then home ++ arg.drop 1 else arg) s.cwd

theorem destination_of_head? {arg : Text} (h : arg.head? ≠ some '~') (s : Shell) :
    s.destination arg = resolve arg s.cwd := by
  cases arg with
  | nil => rfl
  | cons c cs =>
    have hc : c ≠ '~' := by simpa using h
    simp [destination, Text.startsWith, hc, Ne.symm hc]

end Shell

namespace Builtin

theorem expandHome_eq (home arg : Text) :
    expandHome home arg =
      if arg = ['~'] then home else if Text.startsWith "~/" arg then home ++ arg.drop 1 else arg := by
  unfold expandHome
  split
  · rfl
  · rename_i rest
    simp [Text.startsWith]
  · rename_i halone hslash
    have hstart : Text.startsWith "~/" arg = false := by
      rw [Bool.eq_false_iff]
      intro hprefix
      obtain ⟨rest, rfl⟩ := List.isPrefixOf_iff_prefix.mp hprefix
      exact hslash rest rfl
    rw [if_neg halone, hstart]
    rfl

/-! ## What each builtin does -/

section

variable (s : Shell) (arg : Text) (others : List Text)

theorem run_cd_destination :
    cd.run s (arg :: others) =
      if s.tree.isDirectoryAt (s.destination arg) then .ok {} ⟨{ s with cwd := s.destination arg }, []⟩
      else .error (.path ⟨s.destination arg, .notADirectory⟩) ⟨s, []⟩ := by
  have hpath : resolve (expandHome (s.environment.get "HOME") arg) s.cwd = s.destination arg := by
    rw [expandHome_eq]
    rfl
  have hnormal : normalize (s.destination arg) = s.destination arg := normalize_resolve _ s.cwd
  rw [run_cd]
  unfold Tree.isDirectory
  simp only [hpath, hnormal]

theorem run_cd_isOk_iff :
    (cd.run s (arg :: others)).isOk = true ↔ s.tree.isDirectoryAt (s.destination arg) = true := by
  rw [run_cd_destination]
  split
  · rename_i h
    exact iff_of_true rfl h
  · rename_i h
    exact iff_of_false Bool.false_ne_true h

theorem run_cat_node :
    cat.run s (arg :: others) =
      match s.tree.nodes.get? (resolve arg s.cwd) with
      | some (.file content) => .ok { output := content } ⟨s, []⟩
      | _ => .error (.path ⟨resolve arg s.cwd, .noSuchFile⟩) ⟨s, []⟩ := by
  rw [run_cat]
  unfold Tree.read
  simp only [normalize_resolve]
  cases s.tree.nodes.get? (resolve arg s.cwd) with
  | none => rfl
  | some n => cases n <;> rfl

theorem run_cat_isOk_iff :
    (cat.run s (arg :: others)).isOk = true ↔
      ∃ content, s.tree.nodes.get? (resolve arg s.cwd) = some (.file content) := by
  rw [run_cat_node]
  split
  · rename_i content h
    exact iff_of_true rfl ⟨content, h⟩
  · rename_i h
    refine iff_of_false Bool.false_ne_true ?_
    rintro ⟨content, hfile⟩
    exact h content hfile

/-- The names in the directory, a slash behind those of directories. -/
theorem run_ls_children {children : List Text} (hnormal : IsNormal s.cwd)
    (hcwd : s.tree.nodes.get? s.cwd = some (.directory children)) (args : List Text) :
    ls.run s args = .ok { output := Text.join listSeparator (children.map fun name =>
      entryName (name, s.tree.isDirectoryAt (child s.cwd name))) } ⟨s, []⟩ := by
  rw [run_ls, Tree.list_of_directory hnormal hcwd]
  simp only [List.map_map]
  rfl

theorem run_mkdir_isOk_iff :
    (mkdir.run s (arg :: others)).isOk = true ↔
      s.tree.nodes.get? (resolve arg s.cwd) = none ∧ s.tree.HasPlace (resolve arg s.cwd) := by
  rw [run_mkdir, taken_isOk_iff, Tree.createDirectory_succeeds_iff, normalize_resolve]

theorem run_touch_isOk_iff (h : s.tree.Sound) :
    (touch.run s (arg :: others)).isOk = true ↔
      s.tree.isDirectoryAt (resolve arg s.cwd) = false ∧ s.tree.HasPlace (resolve arg s.cwd) := by
  rw [run_touch, taken_isOk_iff, Tree.createFile_succeeds_iff h, normalize_resolve]

end

/-! ## Refusals -/

/-- What a builtin is to fail for. Arguments behind the operand do not count. -/
def Refuses (s : Shell) : Builtin → List Text → Prop
  | cd, [] | mkdir, [] | touch, [] | cat, [] => True
  | cd, arg :: _ => s.tree.isDirectoryAt (s.destination arg) = false
  | mkdir, arg :: _ =>
    s.tree.nodes.contains (resolve arg s.cwd) = true ∨ ¬s.tree.HasPlace (resolve arg s.cwd)
  | touch, arg :: _ =>
    s.tree.isDirectoryAt (resolve arg s.cwd) = true ∨ ¬s.tree.HasPlace (resolve arg s.cwd)
  | cat, arg :: _ => ∀ content, s.tree.nodes.get? (resolve arg s.cwd) ≠ some (.file content)
  | exit, args => args ≠ []
  | path, _ | ls, _ | pwd, _ | echo, _ | env, _ | clear, _ => False

theorem dispatch_name (s : Shell) (b : Builtin) (args : List Text) : s.dispatch b.name args = b.run s args := by
  cases b <;> rfl

theorem run_isOk_iff {config : Config} {s : Shell} (h : s.Settled config) (b : Builtin) (args : List Text) :
    (b.run s args).isOk = true ↔ ¬b.Refuses s args := by
  cases b with
  | cd =>
    cases args with
    | nil => exact iff_of_false Bool.false_ne_true (not_not_intro trivial)
    | cons arg others =>
      rw [run_cd_isOk_iff]
      simp [Refuses]
  | exit =>
    cases args with
    | nil => exact iff_of_true rfl (by simp [Refuses])
    | cons arg others => exact iff_of_false Bool.false_ne_true (by simp [Refuses])
  | ls =>
    obtain ⟨children, hcwd⟩ := Tree.isDirectoryAt_iff.mp h.cwd
    rw [run_ls_children s h.cwd_normal hcwd]
    exact iff_of_true rfl id
  | mkdir =>
    cases args with
    | nil => exact iff_of_false Bool.false_ne_true (not_not_intro trivial)
    | cons arg others =>
      rw [run_mkdir_isOk_iff, ← OrderedMap.contains_eq_false_iff]
      simp [Refuses]
  | touch =>
    cases args with
    | nil => exact iff_of_false Bool.false_ne_true (not_not_intro trivial)
    | cons arg others =>
      rw [run_touch_isOk_iff s arg others h.tree.toSound]
      simp [Refuses]
  | cat =>
    cases args with
    | nil => exact iff_of_false Bool.false_ne_true (not_not_intro trivial)
    | cons arg others =>
      rw [run_cat_isOk_iff]
      simp [Refuses]
  | path | pwd | echo | env | clear => exact iff_of_true rfl id

end Builtin

theorem Shell.isError_eq_false_iff {command : Text} {ending : Ending} :
    (conclude command ending).value.isError = false ↔ ending.isOk = true := by
  cases ending with
  | ok d w => exact iff_of_true rfl rfl
  | error e w => exact iff_of_false Bool.false_ne_true.symm Bool.false_ne_true

namespace Session

/-- After any operations on a new session, a builtin dispatched with any arguments has an
    error for its result exactly if it refuses them. -/
theorem isError_iff_refuses (id : Text) (config : Config) (clock : Clock) (actions : List Action) (b : Builtin)
    (args : List Text) (command : Text) :
    let s := ((create id config clock).after actions).shell
    (Shell.conclude command (s.dispatch b.name args)).value.isError = true ↔ b.Refuses s args := by
  intro s
  have h : s.Settled config := settled_after (s := create id config clock) (settled_seedShell config) actions
  rw [← Bool.not_eq_false, Shell.isError_eq_false_iff, Builtin.dispatch_name, Builtin.run_isOk_iff h, Classical.not_not]

end Session

end TreeShell
