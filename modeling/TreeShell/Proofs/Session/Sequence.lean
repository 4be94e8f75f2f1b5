/-
  TreeShell.Proofs.Session.Sequence — a line of two lines.

  Two lines that are no comments, joined at a separator, run as the one and then the
  other: the same results, and the same session behind them, history included
  (`execute_append`). That the history takes in the results of a line only after the
  line, once here and twice there, does not show: it takes them in one by one.
-/

import TreeShell.Proofs.Line
import TreeShell.Proofs.Shell.Run
import TreeShell.Session

namespace TreeShell.Session

open Line

theorem execute_session (s : Session) (line : Text) :
    (s.execute line).session =
      { s with shell := (s.shell.runAll (commands line)).shell }.recording (s.execute line).results := rfl

theorem execute_results (s : Session) (line : Text) :
    (s.execute line).results = (s.shell.runAll (commands line)).value := rfl

theorem recording_shell (s : Session) (results : List Result) : (s.recording results).shell = s.shell := rfl

theorem recording_append (s : Session) (xs ys : List Result) :
    s.recording (xs ++ ys) = (s.recording xs).recording ys := by
  unfold recording
  rw [List.foldl_append]

/-- Joined at a separator, two lines that are no comments run one after the other. -/
theorem execute_append (s : Session) (a b : Text) (ha : (Text.trim a).head? ≠ some commentMark)
    (hb : (Text.trim b).head? ≠ some commentMark) :
    (s.execute (a ++ separator :: b)).results =
        (s.execute a).results ++ ((s.execute a).session.execute b).results ∧
      (s.execute (a ++ separator :: b)).session = ((s.execute a).session.execute b).session := by
  have hrun := s.shell.runAll_append (commands a) (commands b)
  rw [← commands_append ha hb] at hrun
  have hresults : (s.execute (a ++ separator :: b)).results =
      (s.execute a).results ++ ((s.execute a).session.execute b).results := by
    rw [execute_results, hrun]; rfl
  refine ⟨hresults, ?_⟩
  rw [execute_session s (a ++ separator :: b), execute_session _ b, hresults, recording_append, hrun]
  rfl

/-- A quotation over the separator, and an erasure in the middle: the second line begins
    with what closes the quotation of the first. -/
theorem execute_append_quoted :
    let s := create "s" Config.standard .stopped
    let a : Text := "mkdir docs & clear & echo \"x "
    let b : Text := " y\" & cd docs & clear & pwd # end"
    ((Text.trim a).head? ≠ some commentMark ∧ (Text.trim b).head? ≠ some commentMark) ∧
      (s.execute (a ++ separator :: b)).results =
          (s.execute a).results ++ ((s.execute a).session.execute b).results ∧
        (s.execute (a ++ separator :: b)).session = ((s.execute a).session.execute b).session := by
  intro s a b
  have ha : (Text.trim a).head? ≠ some commentMark := by decide
  have hb : (Text.trim b).head? ≠ some commentMark := by decide
  exact ⟨⟨ha, hb⟩, execute_append s a b ha hb⟩

end TreeShell.Session
