/-
  TreeShell.Proofs.Shell.Run — what running commands does to a shell.

  A command that succeeds moves to another directory, replaces the search path, makes a
  directory or a file without text, or leaves the shell as it was; one that fails leaves it
  as it was (`Effect`, `run_effect`). Each of these is a step of the shell, in which the tree
  changes once at most (`Step`). What each command adds to a run can be shown of the run
  (`runAll_induction`): it is a sequence of such steps (`runAll_steps`). Running two lists of
  commands one after the other is running both as one (`runAll_append`).
-/

import TreeShell.Proofs.Shell.Atomic

namespace TreeShell

namespace Shell

inductive Step (s : Shell) : Shell → Prop
  | stay : Step s s
  | enter (path : Text) : Path.IsNormal path → s.tree.isDirectoryAt path = true → Step s { s with cwd := path }
  | search (directories : List Text) : Step s (s.setSearchPath directories)
  | grow (tree : Tree) : Tree.Change s.tree tree → Step s { s with tree }

abbrev Steps : Shell → Shell → Prop := Relation.ReflTransGen Step

/-- The shell that a command leaves when it succeeds, and the nodes that it has made. -/
inductive Effect (s : Shell) : Shell → List Creation → Prop
  | stay : Effect s s []
  | enter (path : Text) : Path.IsNormal path → s.tree.isDirectoryAt path = true →
      Effect s { s with cwd := path } []
  | search (directories : List Text) : Effect s (s.setSearchPath directories) []
  | makeDirectory (path : Text) (grown : Tree.Grown) : s.tree.createDirectory path = (grown, none) →
      Effect s { s with tree := grown.tree } grown.created
  | makeFile (path : Text) (grown : Tree.Grown) : s.tree.createFile path [] = (grown, none) →
      Effect s { s with tree := grown.tree } grown.created

theorem Effect.step {s s' : Shell} {created : List Creation} (h : Effect s s' created) : Step s s' := by
  cases h with
  | stay => exact .stay
  | enter path hn hdir => exact .enter path hn hdir
  | search directories => exact .search directories
  | makeDirectory path grown h => exact .grow _ (Tree.createDirectory_change h)
  | makeFile path grown h => exact .grow _ (Tree.createFile_change h)

end Shell

/-! ## What each builtin does -/

/-- The command has done what it was to do. -/
def Ending.isOk : Ending → Bool
  | .ok .. => true
  | .error .. => false

/-- What comes of an operation on the tree that gave this answer. -/
def Shell.taken (s : Shell) : Tree.Grown × Option PathError → Ending
  | (grown, none) => .ok {} ⟨{ s with tree := grown.tree }, grown.created⟩
  | (grown, some e) => .error (.path e) ⟨{ s with tree := grown.tree }, grown.created⟩

namespace Builtin

open Shell Working

section

variable (s : Shell) (arg : Text) (others : List Text)

theorem run_cd :
    cd.run s (arg :: others) =
      let path := Path.resolve (expandHome (s.environment.get "HOME") arg) s.cwd
      if s.tree.isDirectory path then .ok {} ⟨{ s with cwd := path }, []⟩
      else .error (.path ⟨path, .notADirectory⟩) ⟨s, []⟩ := by
  have hshell : shell.run ⟨s, []⟩ = .ok s ⟨s, []⟩ := rfl
  show (changeDirectory arg).run ⟨s, []⟩ = _
  unfold changeDirectory
  rw [EStateM.run_bind, hshell]
  simp only
  split <;> rfl

theorem run_ls (args : List Text) :
    ls.run s args =
      match s.tree.list s.cwd with
      | .ok entries => .ok { output := Text.join listSeparator (entries.map entryName) } ⟨s, []⟩
      | .error e => .error (.path e) ⟨s, []⟩ := by
  show (look (s.tree.list s.cwd) >>= _).run ⟨s, []⟩ = _
  cases s.tree.list s.cwd <;> rfl

theorem run_cat :
    cat.run s (arg :: others) =
      match s.tree.read (Path.resolve arg s.cwd) with
      | .ok content => .ok { output := content } ⟨s, []⟩
      | .error e => .error (.path e) ⟨s, []⟩ := by
  show (look (s.tree.read (Path.resolve arg s.cwd)) >>= _).run ⟨s, []⟩ = _
  cases s.tree.read (Path.resolve arg s.cwd) <;> rfl

theorem run_onTree (operation : Tree → Tree.Grown × Option PathError) :
    (onTree operation >>= fun _ => pure {} : Working Done).run ⟨s, []⟩ = s.taken (operation s.tree) := by
  unfold onTree
  cases h : operation s.tree with
  | mk grown error =>
    simp only [EStateM.run_bind, EStateM.run_get, EStateM.run_set, h]
    cases error <;> rfl

theorem run_mkdir : mkdir.run s (arg :: others) = s.taken (s.tree.createDirectory (Path.resolve arg s.cwd)) :=
  run_onTree s fun t => t.createDirectory (Path.resolve arg s.cwd)

theorem run_touch : touch.run s (arg :: others) = s.taken (s.tree.createFile (Path.resolve arg s.cwd) []) :=
  run_onTree s fun t => t.createFile (Path.resolve arg s.cwd) []

end

theorem taken_isOk_iff {s : Shell} {r : Tree.Grown × Option PathError} : (s.taken r).isOk = true ↔ r.2 = none := by
  obtain ⟨grown, error⟩ := r
  cases error with
  | none => exact iff_of_true rfl rfl
  | some e => exact iff_of_false Bool.false_ne_true (Option.some_ne_none e)

theorem taken_eq_ok {s : Shell} {r : Tree.Grown × Option PathError} {d : Done} {w : Work} (h : s.taken r = .ok d w) :
    ∃ grown, r = (grown, none) ∧ w = ⟨{ s with tree := grown.tree }, grown.created⟩ := by
  obtain ⟨grown, error⟩ := r
  cases error with
  | none => cases h; exact ⟨grown, rfl, rfl⟩
  | some e => cases h

theorem run_effect {b : Builtin} {s : Shell} {args : List Text} {d : Done} {w : Work} (h : b.run s args = .ok d w) :
    Effect s w.shell w.created := by
  cases b with
  | cd =>
    cases args with
    | nil => cases h
    | cons arg others =>
      rw [run_cd] at h
      simp only at h
      split at h
      · rename_i hdir
        cases h
        have hn := Path.isNormal_resolve (expandHome (s.environment.get "HOME") arg) s.cwd
        refine .enter _ hn ?_
        unfold Tree.isDirectory at hdir
        rwa [hn] at hdir
      · cases h
  | path => cases h; exact .search args
  | exit =>
    cases args with
    | nil => cases h; exact .stay
    | cons arg others => cases h
  | ls =>
    rw [run_ls] at h
    split at h
    · cases h; exact .stay
    · cases h
  | mkdir =>
    cases args with
    | nil => cases h
    | cons arg others =>
      obtain ⟨grown, hgrown, rfl⟩ := taken_eq_ok ((run_mkdir s arg others).symm.trans h)
      exact .makeDirectory _ grown hgrown
  | touch =>
    cases args with
    | nil => cases h
    | cons arg others =>
      obtain ⟨grown, hgrown, rfl⟩ := taken_eq_ok ((run_touch s arg others).symm.trans h)
      exact .makeFile _ grown hgrown
  | cat =>
    cases args with
    | nil => cases h
    | cons arg others =>
      rw [run_cat] at h
      split at h
      · cases h; exact .stay
      · cases h
  | pwd | echo | env | clear => cases h; exact .stay

end Builtin

namespace Shell

theorem dispatch_eq (s : Shell) (word : Text) (args : List Text) :
    s.dispatch word args =
      match Builtin.ofName? word with
      | some b => b.run s args
      | none =>
        match Command.resolve word s.searchPath s.tree with
        | some _ => .ok { output := "Executed: " ++ Text.join [' '] (word :: args) } ⟨s, []⟩
        | none => .error (.unresolved word) ⟨s, []⟩ := by
  have hshell : Working.shell.run ⟨s, []⟩ = .ok s ⟨s, []⟩ := rfl
  unfold dispatch work
  cases Builtin.ofName? word with
  | some b => rfl
  | none =>
    simp only [EStateM.run_bind, hshell]
    cases Command.resolve word s.searchPath s.tree <;> rfl

theorem dispatch_effect {s : Shell} {word : Text} {args : List Text} {d : Done} {w : Work}
    (h : s.dispatch word args = .ok d w) : Effect s w.shell w.created := by
  rw [dispatch_eq] at h
  split at h
  · exact Builtin.run_effect h
  · split at h
    · cases h; exact .stay
    · cases h

/-- A command that fails stays where it is. -/
theorem run_effect {s : Shell} {command : Text} {ran : Ran Result} (h : s.run command = some ran) :
    ∃ created, Effect s ran.shell created := by
  unfold run at h
  split at h
  · cases h
  · rename_i word args _
    simp only [Option.some.injEq] at h
    subst h
    cases hd : s.dispatch word args with
    | ok d w => exact ⟨w.created, dispatch_effect hd⟩
    | error e w =>
      rw [dispatch_failed hd]
      exact ⟨[], .stay⟩

theorem run_step {s : Shell} {command : Text} {ran : Ran Result} (h : s.run command = some ran) :
    Step s ran.shell := by
  obtain ⟨created, heffect⟩ := run_effect h
  exact heffect.step

/-- What holds of running nothing, and goes over from a run to the same with one result more
    in front, holds of every run. A command without tokens makes no difference. -/
theorem runAll_induction {P : Shell → Ran (List Result) → Prop} (nil : ∀ s, P s ⟨[], s, []⟩)
    (cons : ∀ {s command first rest}, run s command = some first → P first.shell rest →
      P s ⟨first.value :: rest.value, rest.shell, first.records ++ rest.records⟩)
    (s : Shell) (commands : List Text) : P s (s.runAll commands) := by
  induction commands generalizing s with
  | nil => exact nil s
  | cons command commands ih =>
    unfold runAll
    split
    · exact ih s
    · rename_i first hfirst
      exact cons hfirst (ih first.shell)

theorem runAll_steps (s : Shell) (commands : List Text) : Steps s (s.runAll commands).shell :=
  runAll_induction (P := fun s ran => Steps s ran.shell) (fun _ => .refl)
    (fun hfirst hrest => .head (run_step hfirst) hrest) s commands

theorem runAll_append (s : Shell) (xs ys : List Text) :
    s.runAll (xs ++ ys) =
      let first := s.runAll xs
      let rest := first.shell.runAll ys
      ⟨first.value ++ rest.value, rest.shell, first.records ++ rest.records⟩ := by
  induction xs generalizing s with
  | nil => rfl
  | cons command commands ih =>
    simp only [List.cons_append, runAll]
    split
    · exact ih s
    · rename_i first _
      rw [ih first.shell]
      simp

end Shell

end TreeShell
