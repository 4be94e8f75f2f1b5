/-
  TreeShell.Proofs.Session.Report — the records of a line tell what the line did.

  A command that succeeds has one record for each node that it made, and one that fails has
  the record of its failure alone (`report_run`). A report (`Report`) says this of the
  results and records of any number of commands: one after the other, the reports of two
  runs are that of both (`Report.append`), so every run has one (`report_runAll`). Which
  kind a record is of shows in the first word of its text.

  Main statement: whatever the state of the session, the records of a line name the nodes
  that it added and the results that are errors, in order, and the last one counts the
  results (`records_tell_line`).
-/

import Mathlib.Data.List.Forall2
import TreeShell.Proofs.Session.Failure
import TreeShell.Proofs.Session.Growth

namespace TreeShell

namespace Log.Record

def tellsCreation (r : Record) : Bool := Text.startsWith "Created " r.message

def tellsFailure (r : Record) : Bool := Text.startsWith "Command " r.message

@[simp] theorem tellsCreation_created (c : Creation) : tellsCreation (.created c) = true := rfl
@[simp] theorem tellsFailure_created (c : Creation) : tellsFailure (.created c) = false := rfl

theorem filter_tellsCreation (created : List Creation) :
    (created.map Record.created).filter tellsCreation = created.map .created := by
  refine List.filter_eq_self.mpr fun r hr => ?_
  obtain ⟨c, -, rfl⟩ := List.mem_map.mp hr
  exact tellsCreation_created c

theorem filter_tellsFailure (created : List Creation) : (created.map Record.created).filter tellsFailure = [] := by
  refine List.filter_eq_nil_iff.mpr fun r hr => ?_
  obtain ⟨c, -, rfl⟩ := List.mem_map.mp hr
  simp

end Log.Record

/-! ## Reports -/

open Log

/-- The record of a result that is an error. -/
def Failed (record : Record) (result : Result) : Prop := ∃ cause, record = .failed result.command cause

/-- What the records of some commands tell that had these results and led from one tree to
    another. -/
structure Report (t : Tree) (results : List Result) (records : List Record) (u : Tree) : Prop where
  level : ∀ r ∈ records, r.level = .debug
  created : ∃ created, t.Adds created u ∧ records.filter Record.tellsCreation = created.map .created
  failed : List.Forall₂ Failed (records.filter Record.tellsFailure) (results.filter (·.isError))

theorem Report.nil (t : Tree) : Report t [] [] t where
  level _ hr := absurd hr List.not_mem_nil
  created := ⟨[], .refl t, rfl⟩
  failed := .nil

theorem Report.append {t u v : Tree} {results results' : List Result} {records records' : List Record}
    (h : Report t results records u) (h' : Report u results' records' v) :
    Report t (results ++ results') (records ++ records') v where
  level r hr := (List.mem_append.mp hr).elim (h.level r) (h'.level r)
  created := by
    obtain ⟨created, hadds, hrecords⟩ := h.created
    obtain ⟨created', hadds', hrecords'⟩ := h'.created
    exact ⟨created ++ created', hadds.trans hadds', by rw [List.filter_append, hrecords, hrecords', List.map_append]⟩
  failed := by
    rw [List.filter_append, List.filter_append]
    exact List.rel_append h.failed h'.failed

namespace Shell

variable {s : Shell}

theorem report_run {command : Text} {ran : Ran Result} (h : s.run command = some ran) :
    Report s.tree [ran.value] ran.records ran.shell.tree := by
  obtain ⟨word, args, -, rfl⟩ := run_eq_some_iff.mp h
  cases hd : s.dispatch word args with
  | ok d w =>
    refine ⟨fun r hr => ?_, ⟨w.created, (dispatch_effect hd).adds, Record.filter_tellsCreation w.created⟩, ?_⟩
    · obtain ⟨c, -, rfl⟩ := List.mem_map.mp hr
      rfl
    · show List.Forall₂ Failed ((w.created.map Record.created).filter Record.tellsFailure) []
      rw [Record.filter_tellsFailure]
      exact .nil
  | error e w =>
    obtain rfl := dispatch_failed hd
    refine ⟨fun r hr => ?_, ⟨[], .refl s.tree, rfl⟩, .cons ⟨e, rfl⟩ .nil⟩
    obtain rfl := List.mem_singleton.mp hr
    rfl

theorem report_runAll (s : Shell) (commands : List Text) :
    Report s.tree (s.runAll commands).value (s.runAll commands).records (s.runAll commands).shell.tree :=
  runAll_induction (P := fun s ran => Report s.tree ran.value ran.records ran.shell.tree) (fun s => .nil s.tree)
    (fun hfirst hrest => (report_run hfirst).append hrest) s commands

end Shell

/-! ## Lines -/

namespace Session

theorem filter_closingRecord (id line : Text) (results : List Result) :
    (closingRecord id line results).filter Record.tellsCreation = [] ∧
      (closingRecord id line results).filter Record.tellsFailure = [] := by
  unfold closingRecord
  split <;> exact ⟨rfl, rfl⟩

theorem closingRecord_shown (id line : Text) (results : List Result) :
    (closingRecord id line results).map (fun r => (r.level, r.message)) =
      if results = [] then [] else
        [(.info, "Session " ++ id ++ " executed " ++ Text.quoted (Text.trim line) ++ ": " ++
          Text.ofNat results.length ++ " command(s), " ++ Text.ofNat (results.filter (·.isError)).length ++
          " failed")] := by
  rw [← List.countP_eq_length_filter]
  unfold closingRecord
  split <;> rfl

/-- Whatever the state of the session, even one that does not hang together: the keys that a
    line adds stand behind the old ones, and the records that begin with "Created" name them
    in this order, each with the kind of its node; the records that begin with "Command" are
    those of the results that are errors, one for each and in order. All of them are for
    debugging. Behind them comes one for information, unless there are no results, with the
    numbers of the results and of the errors. -/
theorem records_tell_line (s : Session) (line : Text) :
    let e := s.execute line
    let before := s.shell.tree.nodes
    let after := e.session.shell.tree.nodes
    let added := after.entries.drop before.size
    let failures := e.results.filter (·.isError)
    let texts := e.records.map Record.message
    after.keys = before.keys ++ added.map Prod.fst ∧
      texts.filter (Text.startsWith "Created ") =
        added.map (fun (key, node) => "Created " ++ node.kind.name ++ ' ' :: key) ∧
      List.Forall₂ (fun text result => ∃ cause : ShellError,
          text = "Command " ++ Text.quoted result.command ++ " failed: " ++ cause.message)
        (texts.filter (Text.startsWith "Command ")) failures ∧
      ∃ steps closing, e.records = steps ++ closing ∧ (∀ r ∈ steps, r.level = .debug) ∧
        closing.map (fun r => (r.level, r.message)) =
          if e.results = [] then [] else
            [(.info, "Session " ++ s.id ++ " executed " ++ Text.quoted (Text.trim line) ++ ": " ++
              Text.ofNat e.results.length ++ " command(s), " ++ Text.ofNat failures.length ++ " failed")] := by
  intro e before after added failures texts
  have hreport : Report s.shell.tree e.results (s.shell.runLine line).records e.session.shell.tree :=
    s.shell.report_runAll (Line.commands line)
  have hrecords : e.records = (s.shell.runLine line).records ++ closingRecord s.id line e.results := rfl
  obtain ⟨hcreation, hfailure⟩ := filter_closingRecord s.id line e.results
  obtain ⟨created, hadds, hcreated⟩ := hreport.created
  have hentries : added.map (fun e => (⟨e.2.kind, e.1⟩ : Creation)) = created := hadds.drop_entries
  refine ⟨?_, ?_, ?_, _, _, hrecords, hreport.level, closingRecord_shown s.id line e.results⟩
  · rw [hadds.keys, ← hentries, List.map_map]
    rfl
  · have htold : e.records.filter Record.tellsCreation = created.map .created := by
      rw [hrecords, List.filter_append, hcreation, List.append_nil, hcreated]
    -- the texts with this first word are those of the records that it tells apart
    rw [List.filter_map]
    show (e.records.filter Record.tellsCreation).map Record.message = _
    rw [htold, ← hentries, List.map_map, List.map_map]
    rfl
  · rw [List.filter_map]
    show List.Forall₂ _ ((e.records.filter Record.tellsFailure).map Record.message) failures
    rw [hrecords, List.filter_append, hfailure, List.append_nil, List.forall₂_map_left_iff]
    refine hreport.failed.imp ?_
    rintro _ result ⟨cause, rfl⟩
    exact ⟨cause, rfl⟩

/-- A file that is there already is no creation. -/
example :
    let s := create "s" Config.standard .stopped
    (s.execute "touch a & mkdir a & touch a").records.map (String.ofList ·.message) =
      ["Created file /home/user/a", "Command 'mkdir a' failed: /home/user/a: already exists",
        "Session s executed 'touch a & mkdir a & touch a': 3 command(s), 1 failed"] := by decide +kernel

end Session

end TreeShell
