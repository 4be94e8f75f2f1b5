/-
  TreeShell.Proofs.Session.Growth — lines only add to the tree.

  All that a command can make is a directory or a file without text, and a command that fails
  makes nothing (`Shell.Effect.adds`). So each command lets the tree grow
  (`Shell.run_grows`), and with it every run of commands.

  Main statement: whatever the session, a line keeps the keys and the children that there are
  in their places, empties files at most, and adds directories and empty files; after any
  lines what was a directory or a file is one still (`lines_only_add`). Resetting the session
  is what starts a tree again.
-/

import TreeShell.Proofs.Session.Run
import TreeShell.Proofs.Tree.Additions

namespace TreeShell

namespace Shell

theorem Effect.adds {s s' : Shell} {created : List Creation} (h : Effect s s' created) :
    s.tree.Adds created s'.tree := by
  cases h with
  | makeDirectory path grown h => exact Tree.createDirectory_adds h
  | makeFile path grown h => exact Tree.createFile_nil_adds h
  | stay | enter | search => exact .refl s.tree

theorem run_grows {s : Shell} {command : Text} {ran : Ran Result} (h : s.run command = some ran) :
    s.tree.Grows ran.shell.tree := by
  obtain ⟨created, heffect⟩ := run_effect h
  exact heffect.adds.grows

theorem runAll_grows (s : Shell) (commands : List Text) : s.tree.Grows (s.runAll commands).shell.tree :=
  runAll_induction (P := fun s ran => s.tree.Grows ran.shell.tree) (fun s => .refl s.tree)
    (fun hfirst hrest => (run_grows hfirst).trans hrest) s commands

end Shell

namespace Session

theorem execute_grows (s : Session) (line : Text) : s.shell.tree.Grows (s.execute line).session.shell.tree :=
  s.shell.runAll_grows (Line.commands line)

theorem after_grows (s : Session) (lines : List Text) :
    s.shell.tree.Grows (s.after (lines.map .execute)).shell.tree := by
  induction lines generalizing s with
  | nil => exact .refl s.shell.tree
  | cons line lines ih => exact (s.execute_grows line).trans (ih _)

/-- Whatever the state of the session, even one that does not hang together: a line leaves
    every key where it is and every directory with the children that it had in front, empties
    a file or leaves it alone, and adds nothing but empty files and directories. So after any
    lines a path still leads to the kind of node that it once led to. -/
theorem lines_only_add (s : Session) :
    (∀ line, s.shell.tree.Grows (s.execute line).session.shell.tree) ∧
      ∀ lines : List Text,
        let t := s.shell.tree
        let u := (s.after (lines.map .execute)).shell.tree
        (∀ key node, t.nodes.get? key = some node →
          ∃ node', u.nodes.get? key = some node' ∧ node'.kind = node.kind) ∧
        ∀ path, (t.isDirectory path = true → u.isDirectory path = true) ∧
          (t.isFile path = true → u.isFile path = true) := by
  refine ⟨s.execute_grows, ?_⟩
  intro lines t u
  have h : t.Grows u := s.after_grows lines
  exact ⟨fun _ _ hk => h.kind hk, fun path => ⟨h.isDirectory, h.isFile⟩⟩

end Session

end TreeShell
