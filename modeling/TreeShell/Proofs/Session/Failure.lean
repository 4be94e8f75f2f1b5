/-
  TreeShell.Proofs.Session.Failure — a failed command changes nothing.

  Whether a command has a result shows in its text alone: it needs a token, and variables
  neither make nor take away tokens (`run_eq_none_iff`). A result carries the command that
  it is of, and that of a failed one is the generic text. The shell is then as it was, since
  no handler fails behind a change that it has made (`run_failed`, from
  `Shell.dispatch_failed`). Nothing is asked of the shell, not even that it stands in a
  directory.

  Main statement: a line has one result for each of its commands with tokens, in order,
  and each is that of the command on the shell that the commands before it left; the
  failed ones leave it as it was (`execute_atomic`).
-/

import TreeShell.Proofs.Session.Sequence

namespace TreeShell

namespace Shell

variable {s : Shell} {command : Text}

theorem run_eq_none_iff : s.run command = none ↔ Token.split command = [] := by
  have htokens : Token.tokens s.environment command = [] ↔ Token.split command = [] := List.map_eq_nil_iff
  rw [← htokens]
  unfold run
  split
  · rename_i h
    exact iff_of_true rfl h
  · rename_i word args h
    exact iff_of_false nofun (h ▸ List.cons_ne_nil word args)

theorem run_eq_some_iff {ran : Ran Result} :
    s.run command = some ran ↔ ∃ word args, Token.tokens s.environment command = word :: args ∧
      ran = conclude command (s.dispatch word args) := by
  unfold run
  split
  · rename_i h
    rw [h]
    exact iff_of_false nofun fun ⟨_, _, h, _⟩ => nomatch h
  · rename_i word args h
    rw [h]
    constructor
    · intro hrun
      exact ⟨word, args, rfl, (Option.some.inj hrun).symm⟩
    · rintro ⟨word', args', hcons, rfl⟩
      obtain ⟨rfl, rfl⟩ := List.cons.inj hcons
      rfl

theorem run_command {ran : Ran Result} (h : s.run command = some ran) : ran.value.command = command := by
  obtain ⟨word, args, -, rfl⟩ := run_eq_some_iff.mp h
  cases s.dispatch word args <;> rfl

/-- The dispatch has ended in a shell error, on the shell that it was given. -/
theorem run_failed {ran : Ran Result} (h : s.run command = some ran) (hfail : ran.value.isError = true) :
    (∃ word args cause, Token.tokens s.environment command = word :: args ∧
        s.dispatch word args = .error cause ⟨s, []⟩) ∧
      ran.shell = s ∧ ran.value.output = genericFailure ∧ ran.value.erases = false := by
  obtain ⟨word, args, htokens, rfl⟩ := run_eq_some_iff.mp h
  cases hd : s.dispatch word args with
  | ok d w => rw [hd] at hfail; cases hfail
  | error cause w =>
    obtain rfl := dispatch_failed hd
    exact ⟨⟨word, args, cause, htokens, hd⟩, rfl, rfl, rfl⟩

theorem runAll_cons {ran : Ran Result} (h : s.run command = some ran) (commands : List Text) :
    (s.runAll (command :: commands)).value = ran.value :: (ran.shell.runAll commands).value ∧
      (s.runAll (command :: commands)).shell = (ran.shell.runAll commands).shell := by
  rw [runAll, h]
  exact ⟨rfl, rfl⟩

theorem runAll_commands (s : Shell) (commands : List Text) :
    (s.runAll commands).value.map Result.command = commands.filter fun command => Token.split command ≠ [] := by
  induction commands generalizing s with
  | nil => rfl
  | cons command commands ih =>
    cases hrun : s.run command with
    | none =>
      have hsplit := run_eq_none_iff.mp hrun
      rw [runAll, hrun, List.filter_cons_of_neg (by simp [hsplit])]
      exact ih s
    | some ran =>
      have hsplit : Token.split command ≠ [] := by
        intro h
        rw [run_eq_none_iff.mpr h] at hrun
        cases hrun
      rw [(runAll_cons hrun commands).1, List.filter_cons_of_pos (by simp [hsplit]), List.map_cons, run_command hrun,
        ih ran.shell]

end Shell

namespace Session

open Line

/-- Whatever the state of the session: the results are those of the commands with tokens,
    in order; each such command runs on the shell that those before it left; and one that
    fails has come to one of the shell errors, with that shell as it was and no node made,
    and answers with the generic text and without an erasure. -/
theorem execute_atomic (s : Session) (line : Text) :
    (s.execute line).results.map Result.command = (commands line).filter (fun command => Token.split command ≠ []) ∧
      ∀ before command later, commands line = before ++ command :: later → Token.split command ≠ [] →
        let start := (s.shell.runAll before).shell
        ∃ ran, start.run command = some ran ∧
          (s.execute line).results = (s.shell.runAll before).value ++ ran.value :: (ran.shell.runAll later).value ∧
          (s.execute line).session.shell = (ran.shell.runAll later).shell ∧
          (ran.value.isError = true →
            (∃ word args cause, Token.tokens start.environment command = word :: args ∧
                start.dispatch word args = .error cause ⟨start, []⟩) ∧
              ran.shell = start ∧ ran.value.output = "An error has occurred" ∧ ran.value.erases = false) := by
  refine ⟨s.shell.runAll_commands (commands line), ?_⟩
  intro before command later hline hsplit start
  cases hrun : start.run command with
  | none => exact absurd (Shell.run_eq_none_iff.mp hrun) hsplit
  | some ran =>
    obtain ⟨hvalue, hshell⟩ := Shell.runAll_cons hrun later
    have happend := s.shell.runAll_append before (command :: later)
    refine ⟨ran, rfl, ?_, ?_, Shell.run_failed hrun⟩
    · rw [execute_results, hline, happend, ← hvalue]
    · rw [execute_session, recording_shell, hline, happend, ← hshell]

end Session

end TreeShell
