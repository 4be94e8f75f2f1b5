/-
  TreeShell.Proofs.Session.Replay — the history run again.

  A replay runs commands as they are, without a line around them (`Shell.replay`). The
  commands of the results of a line are replayed as the line ran (`replay_runAll`): the
  commands that it left out have no tokens and change nothing, and nothing in a command
  depends on its place in the line, a comment mark at its start included. Line by line, a
  run is replayed by its entries (`exists_replay_after`).

  Main statement: where nothing erased, the commands of the history, replayed on a new
  session of the same configuration, have the outputs that the history tells and lead to
  the shell that the run led to (`replay_history`).
-/

import TreeShell.Proofs.Session.Failure
import TreeShell.Proofs.Session.History

namespace TreeShell

namespace Shell

/-- Runs commands one by one, each on the shell that the one before left; nothing if one of
    them has no result. -/
def replay (s : Shell) : List Text → Option (List Result × Shell)
  | [] => some ([], s)
  | command :: commands =>
    (s.run command).bind fun ran =>
      (ran.shell.replay commands).map fun rest => (ran.value :: rest.1, rest.2)

variable {s s' : Shell}

theorem replay_append {xs : List Text} {results : List Result} (h : s.replay xs = some (results, s'))
    (ys : List Text) :
    s.replay (xs ++ ys) = (s'.replay ys).map fun rest => (results ++ rest.1, rest.2) := by
  induction xs generalizing s results with
  | nil =>
    cases h
    simp
  | cons x xs ih =>
    simp only [replay, Option.bind_eq_some_iff, Option.map_eq_some_iff] at h
    obtain ⟨ran, hrun, ⟨rest, last⟩, hrest, heq⟩ := h
    obtain ⟨rfl, rfl⟩ := Prod.mk.inj heq
    rw [List.cons_append, replay, hrun, Option.bind_some, ih hrest, Option.map_map]
    rfl

/-- The results of commands tell which commands they are of. -/
theorem replay_runAll (s : Shell) (commands : List Text) :
    s.replay ((s.runAll commands).value.map Result.command) =
      some ((s.runAll commands).value, (s.runAll commands).shell) := by
  refine runAll_induction (P := fun s ran => s.replay (ran.value.map Result.command) = some (ran.value, ran.shell))
    (fun _ => rfl) ?_ s commands
  intro s command first rest hfirst hrest
  rw [List.map_cons, run_command hfirst, replay, hfirst, Option.bind_some, hrest]
  rfl

end Shell

namespace Session

/-- What the results of a run of lines tell, erased ones included. -/
def told (s : Session) (lines : List Text) : List (Text × Text × Bool) :=
  (s.trace (lines.map .execute)).flatten.filterMap Event.told?

theorem told_cons (s : Session) (line : Text) (lines : List Text) :
    s.told (line :: lines) = (s.execute line).results.map Result.told ++ (s.execute line).session.told lines := by
  have hresults : ((s.execute line).results.map Event.result).filterMap Event.told? =
      (s.execute line).results.map Result.told := by
    rw [List.filterMap_map, ← List.filterMap_eq_map]
    rfl
  unfold told
  rw [List.map_cons, trace, List.flatten_cons, List.filterMap_append, ← hresults]
  rfl

/-- The commands of a run of lines, whatever it erased, do again what it did. -/
theorem exists_replay_after (s : Session) (lines : List Text) :
    ∃ results, s.shell.replay ((s.told lines).map Prod.fst) =
        some (results, (s.after (lines.map .execute)).shell) ∧
      results.map Result.told = s.told lines := by
  induction lines generalizing s with
  | nil => exact ⟨[], rfl, rfl⟩
  | cons line lines ih =>
    obtain ⟨results, hreplay, hresults⟩ := ih (s.execute line).session
    have hline := s.shell.replay_runAll (Line.commands line)
    have hcommands : (s.execute line).results.map (Prod.fst ∘ Result.told) =
        (s.execute line).results.map Result.command := rfl
    refine ⟨(s.execute line).results ++ results, ?_, ?_⟩
    · rw [told_cons, List.map_append, List.map_map, hcommands]
      refine (Shell.replay_append hline _).trans ?_
      have hshell : (s.shell.runAll (Line.commands line)).shell = (s.execute line).session.shell :=
        rfl
      rw [hshell, hreplay]
      rfl
    · rw [List.map_append, hresults, told_cons]

/-- Whatever lines are run on a new session: if none of their results erases, then each
    command of the history, replayed in order on another new session of the same
    configuration, has a result, with the output and the outcome that the history tells,
    and the shell is in the end the one that the lines left, down to the order of nodes and
    variables. -/
theorem replay_history (id other : Text) (config : Config) (clock clock' : Clock) (lines : List Text)
    (h : ∀ e ∈ ((create id config clock).trace (lines.map .execute)).flatten, e.erases = false) :
    let s := (create id config clock).after (lines.map .execute)
    ∃ results, (create other config clock').shell.replay (s.history.map Entry.command) = some (results, s.shell) ∧
      results.map (fun r => (r.command, r.output, r.isError)) =
        s.history.map fun e => (e.command, e.output, e.isError) := by
  intro s
  have hhistory : s.history.map Entry.told = (create id config clock).told lines := by
    rw [told_after, sinceErasure_eq_self h]
    rfl
  have hcommands : s.history.map Entry.command = ((create id config clock).told lines).map Prod.fst := by
    rw [← hhistory, List.map_map]
    rfl
  obtain ⟨results, hreplay, hresults⟩ := (create id config clock).exists_replay_after lines
  refine ⟨results, ?_, ?_⟩
  · rw [hcommands]
    exact hreplay
  · exact hresults.trans hhistory.symm

/-- Pieces without tokens, one with a comment mark, a failure, and variables that a command
    of the same line sets. -/
theorem replay_history_mixed :
    let lines : List Text := ["mkdir docs & # note & \"\" & cd docs", "path /docs $USER & echo $PATH & cd x"]
    let s := (create "s" Config.standard .stopped).after (lines.map .execute)
    (∀ e ∈ ((create "s" Config.standard .stopped).trace (lines.map .execute)).flatten, e.erases = false) ∧
      s.history.length = 6 ∧
      ∃ results,
        (create "t" Config.standard .stopped).shell.replay (s.history.map Entry.command) = some (results, s.shell) ∧
        results.map (fun r => (r.command, r.output, r.isError)) =
          s.history.map fun e => (e.command, e.output, e.isError) := by
  intro lines s
  have h : ∀ e ∈ ((create "s" Config.standard .stopped).trace (lines.map .execute)).flatten, e.erases = false := by
    decide
  exact ⟨h, by decide, replay_history "s" "t" Config.standard .stopped .stopped lines h⟩

end Session

end TreeShell
