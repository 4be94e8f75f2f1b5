/-
  TreeShell.Proofs.Session.Reset — a reset forgets.

  A session can be worked on by its operations, and its parts can be edited behind its back:
  nodes put and deleted without regard to their parents, variables set and unset, the search
  path and the current directory replaced on their own (`Edit`). The session may hang together
  no longer after that, but its name and its configuration stay (`edit_keeps`), and a reset
  looks at nothing else.

  Main statement: whatever was done to two sessions of one configuration, a reset makes each a
  new session of it, and from then on the same operations have the same results on both
  (`reset_forgets`).
-/

import TreeShell.Proofs.Session.History

namespace TreeShell.Session

inductive Edit where
  | act (action : Action)
  /-- A node at a key as it stands, in place of the one that is there. -/
  | putNode (key : Text) (node : Node)
  | deleteNode (key : Text)
  | setVariable (name value : Text)
  | deleteVariable (name : Text)
  /-- `PATH` alone, the search path not told. -/
  | syncVariable (directories : List Text)
  /-- The search path alone, `PATH` not told. -/
  | putSearchPath (directories : List Text)
  /-- Any text for the current directory. -/
  | putCwd (path : Text)

/-- The session with another tree, other variables, another search path or directory. -/
def withShell (s : Session) (f : Shell → Shell) : Session := { s with shell := f s.shell }

/-- The session that an edit leaves. A variable without a name is refused. -/
def edit (s : Session) : Edit → Session
  | .act action => s.act action
  | .putNode key node => s.withShell fun shell => { shell with tree := shell.tree.put key node }
  | .deleteNode key => s.withShell fun shell => { shell with tree := shell.tree.delete key }
  | .setVariable name value =>
    match s.shell.environment.set name value with
    | .ok environment => s.withShell fun shell => { shell with environment }
    | .error _ => s
  | .deleteVariable name => s.withShell fun shell => { shell with environment := shell.environment.delete name }
  | .syncVariable directories =>
    s.withShell fun shell => { shell with environment := shell.environment.syncSearchPath directories }
  | .putSearchPath directories => s.withShell fun shell => { shell with searchPath := directories }
  | .putCwd path => s.withShell fun shell => { shell with cwd := path }

def edited (s : Session) (edits : List Edit) : Session := edits.foldl edit s

/-! ## What no edit reaches -/

theorem act_keeps (s : Session) (a : Action) : (s.act a).id = s.id ∧ (s.act a).config = s.config :=
  ⟨by cases a <;> rfl, s.act_config a⟩

theorem edit_keeps (s : Session) (e : Edit) : (s.edit e).id = s.id ∧ (s.edit e).config = s.config := by
  cases e with
  | act action => exact s.act_keeps action
  | setVariable name value =>
    unfold edit
    simp only
    split <;> exact ⟨rfl, rfl⟩
  | _ => exact ⟨rfl, rfl⟩

theorem edited_keeps (s : Session) (edits : List Edit) :
    (s.edited edits).id = s.id ∧ (s.edited edits).config = s.config := by
  induction edits generalizing s with
  | nil => exact ⟨rfl, rfl⟩
  | cons e edits ih =>
    obtain ⟨hid, hconfig⟩ := ih (s.edit e)
    exact ⟨hid.trans (s.edit_keeps e).1, hconfig.trans (s.edit_keeps e).2⟩

/-! ## Resets -/

theorem reset_eq_create (s : Session) : s.reset.1 = create s.id s.config s.clock := rfl

/-- Only the clock has gone on. -/
theorem reset_edited (id : Text) (config : Config) (clock : Clock) (edits : List Edit) :
    ((create id config clock).edited edits).reset.1 =
      create id config ((create id config clock).edited edits).clock := by
  obtain ⟨hid, hconfig⟩ := (create id config clock).edited_keeps edits
  rw [reset_eq_create, hid, hconfig]
  rfl

/-- Two sessions of one configuration, after any operations and edits, different ones for
    each: a reset makes both what a new session is, down to the order of nodes, names and
    variables, with the clock that they have by then. The same operations then leave the same
    shells, and histories that tell the same but for the times, and a line has the same
    results on both. -/
theorem reset_forgets (id id' : Text) (config : Config) (clock clock' : Clock) (edits edits' : List Edit) :
    let s := ((create id config clock).edited edits).reset.1
    let s' := ((create id' config clock').edited edits').reset.1
    (s = create id config s.clock ∧ s' = create id' config s'.clock) ∧
      (s.shell = s'.shell ∧ s.history = [] ∧ s'.history = []) ∧
      ∀ later : List Action,
        (s.after later).shell = (s'.after later).shell ∧
          (s.after later).history.map Entry.told = (s'.after later).history.map Entry.told ∧
          ∀ line, ((s.after later).execute line).results = ((s'.after later).execute line).results := by
  intro s s'
  have hs : s = create id config s.clock := reset_edited id config clock edits
  have hs' : s' = create id' config s'.clock := reset_edited id' config clock' edits'
  refine ⟨⟨hs, hs'⟩, ⟨by rw [hs, hs']; rfl, rfl, rfl⟩, fun later => ?_⟩
  -- the one is the other under another name
  obtain ⟨htrace, hshell⟩ := (create id' config s'.clock).after_renamed id [] s.clock later
  have htrace : (create id config s.clock).trace later = (create id' config s'.clock).trace later := htrace
  have hshell : ((create id config s.clock).after later).shell = ((create id' config s'.clock).after later).shell :=
    hshell
  rw [hs, hs']
  refine ⟨hshell, ?_, fun line => ?_⟩
  · rw [told_after, told_after, htrace]
  · show (Shell.runLine _ line).value = (Shell.runLine _ line).value
    rw [hshell]

end TreeShell.Session
