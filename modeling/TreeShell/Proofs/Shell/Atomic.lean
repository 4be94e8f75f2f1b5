/-
  TreeShell.Proofs.Shell.Atomic — a command that fails leaves the shell as it found it.

  A failure undoes nothing of what a command has done by then, so this rests on the order
  of steps in each handler. A step that only looks may fail (`Looks`), and so may one that
  changes nothing where it fails, as an operation on the tree (`onTree_atomic`); but behind
  a change there may only be what never fails (`Sure`). Each builtin keeps to this order
  (`Builtin.handler_atomic`), and so does a word that is no builtin (`work_atomic`).

  Main statement: where a dispatch ends in an error, the shell is the one that it was given,
  and no node was made (`dispatch_failed`). Nothing is asked of the shell.
-/

import TreeShell.Proofs.Tree.Change
import TreeShell.Shell.Run

namespace TreeShell

namespace Working

variable {α β : Type} {x : Working α} {f : α → Working β}

/-- Changes nothing, whether it fails or not. -/
def Looks (x : Working α) : Prop := ∀ w, (∃ a, x.run w = .ok a w) ∨ ∃ e, x.run w = .error e w

/-- Does not fail. -/
def Sure (x : Working α) : Prop := ∀ w, ∃ a w', x.run w = .ok a w'

/-- Changes nothing where it fails. -/
def Atomic (x : Working α) : Prop := ∀ w e w', x.run w = .error e w' → w' = w

theorem Looks.atomic (hx : Looks x) : Atomic x := by
  intro w e w' h
  rcases hx w with ⟨a, ha⟩ | ⟨e', he⟩
  · rw [ha] at h; cases h
  · rw [he] at h; cases h; rfl

theorem Sure.atomic (hx : Sure x) : Atomic x := by
  intro w e w' h
  obtain ⟨a, w'', ha⟩ := hx w
  rw [ha] at h
  cases h

/-! ## One step after another -/

theorem Looks.bind (hx : Looks x) (hf : ∀ a, Atomic (f a)) : Atomic (x >>= f) := by
  intro w e w' h
  rw [EStateM.run_bind] at h
  rcases hx w with ⟨a, ha⟩ | ⟨e', he⟩
  · rw [ha] at h
    exact hf a w e w' h
  · rw [he] at h; cases h; rfl

theorem Atomic.bind (hx : Atomic x) (hf : ∀ a, Sure (f a)) : Atomic (x >>= f) := by
  intro w e w' h
  rw [EStateM.run_bind] at h
  cases hrun : x.run w with
  | ok a w'' =>
    obtain ⟨b, last, hlast⟩ := hf a w''
    rw [hrun] at h
    exact absurd (hlast.symm.trans h) nofun
  | error e' w'' =>
    rw [hrun] at h; cases h
    exact hx w e w' hrun

/-! ## Steps -/

theorem looks_pure (a : α) : Looks (pure a) := fun _ => .inl ⟨a, rfl⟩

theorem looks_throw (e : ShellError) : Looks (throw e : Working α) := fun _ => .inr ⟨e, rfl⟩

theorem looks_shell : Looks shell := fun w => .inl ⟨w.shell, rfl⟩

theorem looks_look (r : Except PathError α) : Looks (look r) := by
  cases r with
  | ok a => exact looks_pure a
  | error e => exact looks_throw _

theorem sure_pure (a : α) : Sure (pure a) := fun w => ⟨a, w, rfl⟩

theorem sure_setShell (s : Shell) : Sure (setShell s) := fun w => ⟨(), { w with shell := s }, rfl⟩

/-- The tree is taken over before the error is looked at, so it matters that it is the old
    one. -/
theorem onTree_atomic {operation : Tree → Tree.Grown × Option PathError}
    (h : ∀ t grown e, operation t = (grown, some e) → grown = ⟨t, []⟩) : Atomic (onTree operation) := by
  intro w e w' hrun
  unfold onTree at hrun
  cases hop : operation w.shell.tree with
  | mk grown error =>
    simp only [EStateM.run_bind, EStateM.run_get, EStateM.run_set, hop] at hrun
    cases error with
    | none => cases hrun
    | some e' =>
      obtain rfl := h _ _ _ hop
      cases hrun
      simp

end Working

/-! ## Handlers -/

namespace Builtin

open Working

theorem looks_operand (b : Builtin) (args : List Text) : Looks (operand b args) := by
  cases args with
  | nil => exact looks_throw _
  | cons arg others => exact looks_pure arg

theorem changeDirectory_atomic (arg : Text) : Atomic (changeDirectory arg) := by
  refine looks_shell.bind fun s => ?_
  simp only
  split
  · exact (sure_setShell _).atomic.bind fun _ => sure_pure _
  · exact (looks_throw _).atomic

theorem handler_atomic (b : Builtin) (args : List Text) : Atomic (b.handler args) := by
  unfold handler
  cases b with
  | cd => exact (looks_operand cd args).bind changeDirectory_atomic
  | path => exact looks_shell.bind fun _ => (sure_setShell _).atomic.bind fun _ => sure_pure _
  | exit =>
    simp only
    split
    · exact (sure_pure _).atomic
    · exact (looks_throw _).atomic
  | ls => exact looks_shell.bind fun s => (looks_look _).bind fun _ => (sure_pure _).atomic
  | pwd => exact looks_shell.bind fun _ => (sure_pure _).atomic
  | echo => exact (sure_pure _).atomic
  | env => exact looks_shell.bind fun _ => (sure_pure _).atomic
  | mkdir =>
    refine (looks_operand mkdir args).bind fun name => looks_shell.bind fun s => ?_
    exact (onTree_atomic fun _ _ _ => Tree.createDirectory_failed).bind fun _ => sure_pure _
  | touch =>
    refine (looks_operand touch args).bind fun name => looks_shell.bind fun s => ?_
    exact (onTree_atomic fun _ _ _ => Tree.createFile_failed).bind fun _ => sure_pure _
  | cat =>
    refine (looks_operand cat args).bind fun name => looks_shell.bind fun s => ?_
    exact (looks_look _).bind fun _ => (sure_pure _).atomic
  | clear => exact (sure_pure _).atomic

end Builtin

namespace Shell

open Working

theorem work_atomic (word : Text) (args : List Text) : Atomic (work word args) := by
  unfold work
  split
  · exact Builtin.handler_atomic _ args
  · refine looks_shell.bind fun s => ?_
    split
    · exact (sure_pure _).atomic
    · exact (looks_throw _).atomic

theorem dispatch_failed {s : Shell} {word : Text} {args : List Text} {e : ShellError} {w : Work}
    (h : s.dispatch word args = .error e w) : w = ⟨s, []⟩ :=
  work_atomic word args ⟨s, []⟩ e w h

end Shell

end TreeShell
