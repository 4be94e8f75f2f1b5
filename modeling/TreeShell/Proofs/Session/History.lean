/-
  TreeShell.Proofs.Session.History — what the history holds, and that nothing looks at it.

  What a run of operations means for the history shows in its events (`trace`): each
  result of a line at its place in the line, and the erasures that come from no line. An
  event that erases empties the history, any other one puts its entry at the end
  (`recorded_after`). So only what follows the last erasure is left (`told_foldl_record`),
  although the history takes in the results of a line when all of it has run. The entries
  that are left have the last times that the clock told, one each, in order
  (`timestamps_after`).

  No operation reads the history or the session's name, and what the clock tells goes into
  entries alone: a session with others runs alike (`act_renamed`, `after_renamed`).

  Main statement: after any operations on a new session the history is that of the results
  since the last erasure, and with another history, name and clock the same operations would
  have had the same events and left the same shell (`history_eq_sinceErasure`).
-/

import Mathlib.Data.List.DropRight
import TreeShell.Proofs.Session.Run

namespace TreeShell

/-- Command, output, and whether it failed: what the history keeps of a result. -/
def Result.told (r : Result) : Text × Text × Bool := (r.command, r.output, r.isError)

/-- What an entry tells, but for the time. -/
def Entry.told (e : Entry) : Text × Text × Bool := (e.command, e.output, e.isError)

namespace Clock

variable (c : Clock)

theorem after_zero : c.after 0 = c :=
  congrArg mk (funext fun k => congrArg c.reading (Nat.zero_add k))

theorem after_after (m n : Nat) : (c.after m).after n = c.after (m + n) :=
  congrArg mk (funext fun k => congrArg c.reading (Nat.add_assoc m n k).symm)

end Clock

namespace Session

/-! ## Events -/

inductive Event where
  | result (r : Result)
  /-- The history is erased by no command. -/
  | erasure

def Event.erases : Event → Bool
  | result r => r.erases
  | erasure => true

def Event.told? : Event → Option (Text × Text × Bool)
  | result r => some r.told
  | erasure => none

def events (s : Session) : Action → List Event
  | .execute line => (s.execute line).results.map .result
  | .clearHistory | .reset => [.erasure]
  | .setSearchPath _ | .tree _ => []

/-- The events of each operation of a run. -/
def trace (s : Session) : List Action → List (List Event)
  | [] => []
  | a :: actions => s.events a :: (s.act a).trace actions

/-- The events after the last one that erases; all if there is none. -/
def sinceErasure (events : List Event) : List Event := events.rtakeWhile fun e => !e.erases

/-- The history and the clock after an event. -/
def record : List Entry × Clock → Event → List Entry × Clock
  | recorded, .result r => recordResult recorded r
  | (_, clock), .erasure => ([], clock)

theorem record_of_erases {e : Event} (h : e.erases = true) (recorded : List Entry × Clock) :
    record recorded e = ([], recorded.2) := by
  cases e with
  | result r => exact if_pos h
  | erasure => rfl

/-- An event that does not erase takes the next reading of the clock for its entry. -/
theorem record_of_not_erases {e : Event} (h : e.erases = false) (recorded : List Entry × Clock) :
    ∃ entry : Entry, e.told? = some entry.told ∧ entry.timestamp = recorded.2.now ∧
      record recorded e = (recorded.1 ++ [entry], recorded.2.after 1) := by
  cases e with
  | result r =>
    have hr : r.erases ≠ true := by simpa [Event.erases] using h
    exact ⟨⟨r.command, r.output, r.isError, recorded.2.now⟩, rfl, rfl, if_neg hr⟩
  | erasure => cases h

/-! ## What the history holds -/

theorem recorded_act (s : Session) (a : Action) :
    ((s.act a).history, (s.act a).clock) = (s.events a).foldl record (s.history, s.clock) := by
  cases a with
  | execute line =>
    show (s.execute line).results.foldl recordResult (s.history, s.clock) =
      ((s.execute line).results.map .result).foldl record (s.history, s.clock)
    rw [List.foldl_map]
    rfl
  | setSearchPath directories => rfl
  | clearHistory => rfl
  | reset => rfl
  | tree call => rfl

theorem recorded_after (s : Session) (actions : List Action) :
    ((s.after actions).history, (s.after actions).clock) =
      (s.trace actions).flatten.foldl record (s.history, s.clock) := by
  induction actions generalizing s with
  | nil => rfl
  | cons a actions ih =>
    show (((s.act a).after actions).history, ((s.act a).after actions).clock) = _
    rw [ih, recorded_act, trace, List.flatten_cons, List.foldl_append]

theorem told_foldl_record (events : List Event) (clock : Clock) :
    (events.foldl record ([], clock)).1.map Entry.told = (sinceErasure events).filterMap Event.told? := by
  unfold sinceErasure
  -- from the end, where the last event decides whether anything before it counts
  induction events using List.reverseRecOn with
  | nil => rfl
  | append_singleton events e ih =>
    rw [List.foldl_append, List.foldl_cons, List.foldl_nil]
    by_cases he : e.erases = true
    · rw [record_of_erases he, List.rtakeWhile_concat_neg _ _ _ (by simp [he])]
      rfl
    · obtain ⟨entry, htold, -, hrecord⟩ := record_of_not_erases (by simpa using he) (events.foldl record ([], clock))
      rw [hrecord, List.rtakeWhile_concat_pos _ _ _ (by simp [he]), List.filterMap_append, List.map_append, ih,
        List.filterMap_cons_some htold]
      rfl

/-- After any operations on a new session the history tells of the results since the last
    erasure. -/
theorem told_after (id : Text) (config : Config) (clock : Clock) (actions : List Action) :
    ((create id config clock).after actions).history.map Entry.told =
      (sinceErasure ((create id config clock).trace actions).flatten).filterMap Event.told? := by
  have hrecorded := congrArg Prod.fst (recorded_after (create id config clock) actions)
  rw [← told_foldl_record _ clock]
  exact congrArg (List.map Entry.told) hrecorded

theorem sinceErasure_eq_self {events : List Event} (h : ∀ e ∈ events, e.erases = false) :
    sinceErasure events = events := by
  unfold sinceErasure
  rw [List.rtakeWhile_eq_self_iff]
  intro e he
  simp [h e he]

/-! ## When it was recorded -/

/-- The entries have the times that the clock tells from some reading on, one each, and the
    readings after those are still to come. -/
def Dated (clock : Clock) (recorded : List Entry × Clock) : Prop :=
  ∃ start, recorded.1.map Entry.timestamp = (List.range' start recorded.1.length).map clock.reading ∧
    recorded.2 = clock.after (start + recorded.1.length)

theorem Dated.record {clock : Clock} {recorded : List Entry × Clock} (h : Dated clock recorded) (e : Event) :
    Dated clock (record recorded e) := by
  obtain ⟨start, htimes, hlater⟩ := h
  by_cases he : e.erases = true
  · rw [record_of_erases he]
    exact ⟨start + recorded.1.length, rfl, hlater⟩
  · obtain ⟨entry, -, htime, hrecord⟩ := record_of_not_erases (by simpa using he) recorded
    have hnow : entry.timestamp = clock.reading (start + recorded.1.length) := by rw [htime, hlater]; rfl
    have hlength : (recorded.1 ++ [entry]).length = recorded.1.length + 1 := List.length_append
    rw [hrecord]
    refine ⟨start, ?_, ?_⟩
    · simp only [hlength, List.map_append, htimes, List.range'_concat, List.map_singleton, hnow, Nat.one_mul]
    · rw [hlength, hlater, Clock.after_after, Nat.add_assoc]

theorem Dated.foldl {clock : Clock} {recorded : List Entry × Clock} (h : Dated clock recorded)
    (events : List Event) : Dated clock (events.foldl Session.record recorded) := by
  induction events generalizing recorded with
  | nil => exact h
  | cons e events ih => exact ih (h.record e)

/-- After any operations on a new session the entries of the history have the last times
    that the clock told, one each and in order. -/
theorem timestamps_after (id : Text) (config : Config) (clock : Clock) (actions : List Action) :
    let s := (create id config clock).after actions
    ∃ start, s.history.map Entry.timestamp = (List.range' start s.history.length).map clock.reading ∧
      s.clock = clock.after (start + s.history.length) := by
  intro s
  have hnew : Dated clock ([], clock) := ⟨0, rfl, clock.after_zero.symm⟩
  have h := hnew.foldl ((create id config clock).trace actions).flatten
  rwa [show ([], clock) = ((create id config clock).history, (create id config clock).clock) from rfl,
    ← recorded_after] at h

/-! ## Who looks at it -/

variable (s : Session) (id : Text) (history : List Entry) (clock : Clock)

/-- The same session with another name, another history and another clock. -/
def renamed : Session := { s with id, history, clock }

/-- An operation has the same events and leaves the same shell, from the same settings. -/
theorem act_renamed (a : Action) :
    (s.renamed id history clock).events a = s.events a ∧
      ∃ history' clock', (s.renamed id history clock).act a = (s.act a).renamed id history' clock' := by
  cases a with
  | execute line => exact ⟨rfl, _, _, rfl⟩
  | setSearchPath directories => exact ⟨rfl, _, _, rfl⟩
  | clearHistory => exact ⟨rfl, _, _, rfl⟩
  | reset => exact ⟨rfl, _, _, rfl⟩
  | tree call => exact ⟨rfl, _, _, rfl⟩

theorem after_renamed (actions : List Action) :
    (s.renamed id history clock).trace actions = s.trace actions ∧
      ((s.renamed id history clock).after actions).shell = (s.after actions).shell := by
  induction actions generalizing s history clock with
  | nil => exact ⟨rfl, rfl⟩
  | cons a actions ih =>
    obtain ⟨hevents, history', clock', hact⟩ := s.act_renamed id history clock a
    obtain ⟨htrace, hshell⟩ := ih (s.act a) history' clock'
    constructor
    · rw [trace, trace, hevents, hact, htrace]
    · show (((s.renamed id history clock).act a).after actions).shell = ((s.act a).after actions).shell
      rw [hact, hshell]

/-- After any operations on a new session the history tells of the results since the last
    erasure, in order, each with its command, its output and whether it failed; erasing it
    tells how many that were. Had the session another name or clock, or any history to begin
    with, then the same operations would have had the same results and left the same tree,
    variables, search path and directory. -/
theorem history_eq_sinceErasure (id : Text) (config : Config) (clock : Clock) (actions : List Action) :
    let s := (create id config clock).after actions
    s.history.map Entry.told =
        (sinceErasure ((create id config clock).trace actions).flatten).filterMap Event.told? ∧
      (s.clearHistory.1 = s.history.length ∧ s.clearHistory.2.history = []) ∧
      ∀ (s₀ : Session) (name : Text) (earlier : List Entry) (other : Clock) (actions : List Action),
        let t₀ : Session := { s₀ with id := name, history := earlier, clock := other }
        t₀.trace actions = s₀.trace actions ∧ (t₀.after actions).shell = (s₀.after actions).shell := by
  intro s
  refine ⟨told_after id config clock actions, ⟨rfl, rfl⟩, ?_⟩
  intro s₀ name earlier other actions
  exact s₀.after_renamed name earlier other actions

end Session

end TreeShell
