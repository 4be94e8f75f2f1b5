/-
  TreeShell.Proofs.Session.Run — what holds between any two operations on a session.

  A shell is settled (`Settled`) when its tree hangs together, it stands in a directory,
  its home is one, and its variables are the three that the configuration and the
  search path make. Seeding a shell raises no error and settles it (`settled_seedShell`),
  and every command and every other operation keeps it so, the ones that fail included
  (`Settled.step`, `settled_act`).

  Main statement: after any run of operations on a new session no problem is found,
  `cd ~` leads home and `ls` never fails (`nothing_wrong_after`).
-/

import TreeShell.Proofs.Shell.Run
import TreeShell.Proofs.Tree.Consistent
import TreeShell.Proofs.Tree.Seed
import TreeShell.Session

namespace TreeShell

open TreeShell.Path

/-! ## The variables -/

namespace Environment

variable (home user : Text) (searchPath : List Text)

theorem entries_seeded :
    (seeded home user searchPath).bindings.entries =
      ([("HOME", home), ("USER", user), ("PATH", joinedPath searchPath)] : List (Text × Text)) := rfl

theorem get_home_seeded : (seeded home user searchPath).get "HOME" = home := rfl

/-- A new search path takes the place of the one before. -/
theorem syncSearchPath_seeded (directories : List Text) :
    (seeded home user searchPath).syncSearchPath directories = seeded home user directories := by
  have hentries : ((seeded home user searchPath).syncSearchPath directories).bindings.entries =
      ([("HOME", home), ("USER", user), ("PATH", joinedPath directories)] : List (Text × Text)) := rfl
  have hbindings := OrderedMap.ext (hentries.trans (entries_seeded home user directories).symm)
  exact congrArg Environment.mk hbindings

theorem problems_seeded : (seeded home user searchPath).problems searchPath = [] := by
  have hpath : (seeded home user searchPath).bindings.get? "PATH" = some (joinedPath searchPath) := rfl
  have hrequired : (required.filter fun name => !(seeded home user searchPath).has name) = [] := rfl
  unfold problems
  rw [hpath, hrequired]
  simp

end Environment

/-! ## Settled shells -/

namespace Shell

structure Settled (config : Config) (s : Shell) : Prop where
  tree : s.tree.Consistent
  cwd_normal : IsNormal s.cwd
  cwd : s.tree.isDirectoryAt s.cwd = true
  home : s.tree.isDirectoryAt config.home = true
  environment : s.environment = Environment.seeded config.home config.user s.searchPath

namespace Settled

variable {config : Config} {s : Shell} (h : s.Settled config)

include h

/-- No directory is lost where the tree only changes. -/
theorem grow {tree : Tree} (hc : Tree.Changes s.tree tree) : Settled config { s with tree } where
  tree := h.tree.changes hc
  cwd_normal := h.cwd_normal
  cwd := hc.isDirectoryAt h.cwd
  home := hc.isDirectoryAt h.home
  environment := h.environment

theorem setSearchPath (directories : List Text) : (s.setSearchPath directories).Settled config where
  tree := h.tree
  cwd_normal := h.cwd_normal
  cwd := h.cwd
  home := h.home
  environment := by
    show s.environment.syncSearchPath directories = _
    rw [h.environment, Environment.syncSearchPath_seeded]
    rfl

theorem step {s' : Shell} (hs : Step s s') : s'.Settled config := by
  cases hs with
  | stay => exact h
  | enter path hn hdir => exact ⟨h.tree, hn, hdir, h.home, h.environment⟩
  | search directories => exact h.setSearchPath directories
  | grow tree hc => exact h.grow (.single hc)

theorem steps {s' : Shell} (hs : Steps s s') : s'.Settled config := by
  induction hs with
  | refl => exact h
  | tail _ hstep ih => exact ih.step hstep

/-! ### Commands that cannot fail -/

/-- Whatever follows the tilde, the shell goes home. -/
theorem run_home (args : List Text) :
    Builtin.cd.run s (['~'] :: args) = .ok {} ⟨{ s with cwd := config.home }, []⟩ := by
  have hhome : Builtin.expandHome (s.environment.get "HOME") ['~'] = config.home := by
    rw [h.environment, Environment.get_home_seeded]; rfl
  have hresolve : resolve config.home s.cwd = config.home := resolve_of_isNormal config.home_normal s.cwd
  have hdir : s.tree.isDirectory config.home = true := by
    unfold Tree.isDirectory
    rw [config.home_normal, h.home]
  rw [Builtin.run_cd]
  simp only [hhome, hresolve, hdir, if_true]

theorem list_cwd : ∃ entries, s.tree.list s.cwd = .ok entries := by
  obtain ⟨children, hchildren⟩ := Tree.isDirectoryAt_iff.mp h.cwd
  exact ⟨_, Tree.list_of_directory h.cwd_normal hchildren⟩

end Settled

/-- The command has a result, which is no error, and leaves the shell `s'`. -/
def Succeeds (s : Shell) (command : Text) (s' : Shell) : Prop :=
  ∃ ran, s.run command = some ran ∧ ran.value.isError = false ∧ ran.shell = s'

theorem succeeds_of_dispatch {s : Shell} {command word : Text} {args : List Text} {d : Done} {w : Work}
    (ht : Token.tokens s.environment command = word :: args) (hd : s.dispatch word args = .ok d w) :
    s.Succeeds command w.shell := by
  unfold Succeeds run
  rw [ht]
  simp only [hd]
  exact ⟨_, rfl, rfl, rfl⟩

namespace Settled

variable {config : Config} {s : Shell} (h : s.Settled config) {command : Text} {args : List Text}

include h

theorem succeeds_home (ht : Token.tokens s.environment command = Builtin.cd.name :: ['~'] :: args) :
    s.Succeeds command { s with cwd := config.home } := by
  have hd : s.dispatch Builtin.cd.name (['~'] :: args) = Builtin.cd.run s (['~'] :: args) := rfl
  exact succeeds_of_dispatch ht (hd.trans (h.run_home args))

theorem succeeds_list (ht : Token.tokens s.environment command = Builtin.ls.name :: args) :
    s.Succeeds command s := by
  obtain ⟨entries, hentries⟩ := h.list_cwd
  have hd : s.dispatch Builtin.ls.name args = Builtin.ls.run s args := rfl
  rw [Builtin.run_ls, hentries] at hd
  exact succeeds_of_dispatch ht hd

end Settled

end Shell

/-! ## Runs of operations -/

namespace Session

inductive Action where
  | execute (line : Text)
  | setSearchPath (directories : List Text)
  | clearHistory
  | reset
  | tree (call : Tree.Call)

/-- The session that an operation leaves; a call on the tree also when it raises. -/
def act (s : Session) : Action → Session
  | .execute line => (s.execute line).session
  | .setSearchPath directories => s.setSearchPath directories
  | .clearHistory => s.clearHistory.2
  | .reset => s.reset.1
  | .tree call => { s with shell := { s.shell with tree := (s.shell.tree.perform call).1 } }

def after (s : Session) (actions : List Action) : Session := actions.foldl act s

theorem settled_seedShell (config : Config) : (seedShell config).Settled config := by
  have hhome : (seedShell config).tree.isDirectoryAt config.home = true := by
    have hmem : config.home ∈ config.home :: seedDirectories ++ config.searchPath := by simp
    have := Tree.isDirectoryAt_seeded hmem
    rwa [config.home_normal] at this
  exact ⟨Tree.Consistent.bare.changes (Tree.ensureAll_changes _ _), config.home_normal, hhome, hhome, rfl⟩

theorem act_config (s : Session) (a : Action) : (s.act a).config = s.config := by
  cases a <;> rfl

theorem settled_act {s : Session} (h : s.shell.Settled s.config) (a : Action) :
    (s.act a).shell.Settled s.config := by
  cases a with
  | execute line => exact h.steps (s.shell.runAll_steps (Line.commands line))
  | setSearchPath directories => exact h.setSearchPath directories
  | clearHistory => exact h
  | reset => exact settled_seedShell s.config
  | tree call => exact h.grow (Tree.perform_changes s.shell.tree call)

theorem settled_after {s : Session} (h : s.shell.Settled s.config) (actions : List Action) :
    (s.after actions).shell.Settled s.config := by
  induction actions generalizing s with
  | nil => exact h
  | cons a actions ih =>
    have := ih (s := s.act a) (by rw [act_config]; exact settled_act h a)
    rwa [act_config] at this

theorem problems_eq_nil {s : Session} {config : Config} (h : s.shell.Settled config) : s.problems = [] := by
  have htree := (Tree.problems_eq_nil_iff s.shell.tree).mpr h.tree.toSound
  have henvironment : s.shell.environment.problems s.shell.searchPath = [] := by
    rw [h.environment, Environment.problems_seeded]
  have hcwd : s.shell.tree.isDirectory s.shell.cwd = true := by
    unfold Tree.isDirectory
    rw [h.cwd_normal, h.cwd]
  unfold problems
  rw [htree, henvironment, hcwd]
  rfl

/-- After any operations on a new session nothing is wrong with it: no problem is found, it
    stands in a directory, its home is one, and its variables are those of its
    configuration and its search path. `cd ~` then leads home, and `ls` succeeds. -/
theorem nothing_wrong_after (id : Text) (config : Config) (clock : Clock) (actions : List Action) :
    let s := (create id config clock).after actions
    (Tree.bare.ensureAll (config.home :: seedDirectories ++ config.searchPath)).2 = none ∧
      s.problems = [] ∧
      (normalize s.shell.cwd = s.shell.cwd ∧ s.shell.tree.isDirectoryAt s.shell.cwd = true) ∧
      s.shell.tree.isDirectoryAt config.home = true ∧
      s.shell.environment.bindings.entries =
        ([("HOME", config.home), ("USER", config.user), ("PATH", Text.join [':'] s.shell.searchPath)] :
          List (Text × Text)) ∧
      s.shell.Succeeds "cd ~" { s.shell with cwd := config.home } ∧
      ∀ command args, Token.tokens s.shell.environment command = Builtin.ls.name :: args →
        s.shell.Succeeds command s.shell := by
  intro s
  have h : s.shell.Settled config := settled_after (s := create id config clock) (settled_seedShell config) actions
  refine ⟨Tree.ensureAll_bare_none _, problems_eq_nil h, ⟨h.cwd_normal, h.cwd⟩, h.home, ?_, ?_, ?_⟩
  · rw [h.environment]
    exact Environment.entries_seeded config.home config.user s.shell.searchPath
  · have ht : Token.tokens s.shell.environment "cd ~" = [Builtin.cd.name, ['~']] := rfl
    exact h.succeeds_home ht
  · intro command args ht
    exact h.succeeds_list ht

end Session

end TreeShell
