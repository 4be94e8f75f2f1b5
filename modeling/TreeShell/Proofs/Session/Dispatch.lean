/-
  TreeShell.Proofs.Session.Dispatch — what is run is what the word stands for.

  Two tables decide on the first token of a command: the one that has the builtins by their
  names (`Builtin.ofName?`), and the list of names that a resolution starts with. They hold
  the same words (`ofName?_eq_none_iff`), each for one builtin (`ofName?_eq_some_iff`). So
  the dispatch of a word is settled by its resolution (`dispatch_of_builtin`,
  `dispatch_of_external`, `dispatch_of_none`), whatever state the shell is in.

  Main statement: a command runs the builtin that its word stands for, names the entry of the
  search path, or fails because the word stands for nothing (`run_as_resolved`).
-/

import TreeShell.Proofs.Session.Failure

namespace TreeShell

namespace Builtin

theorem ofName?_eq_some_iff {word : Text} {b : Builtin} : ofName? word = some b ↔ b.name = word := by
  constructor
  · intro h
    exact eq_of_beq (List.find?_some (p := fun c : Builtin => c.name == word) h)
  · rintro rfl
    cases b <;> rfl

theorem mem_all (b : Builtin) : b ∈ all := by cases b <;> decide

theorem mem_names_iff {word : Text} : word ∈ names ↔ ∃ b : Builtin, b.name = word := by
  unfold names
  rw [List.mem_map]
  exact ⟨fun ⟨b, _, h⟩ => ⟨b, h⟩, fun ⟨b, h⟩ => ⟨b, b.mem_all, h⟩⟩

/-- Neither table has a word that the other lacks. -/
theorem ofName?_eq_none_iff {word : Text} : ofName? word = none ↔ word ∉ names := by
  rw [mem_names_iff, Option.eq_none_iff_forall_ne_some]
  constructor
  · rintro h ⟨b, hb⟩
    exact h b (ofName?_eq_some_iff.mpr hb)
  · intro h b hb
    exact h ⟨b, ofName?_eq_some_iff.mp hb⟩

end Builtin

namespace Command

variable {word : Text} {searchPath : List Text} {tree : Tree}

theorem resolve_of_mem (h : word ∈ Builtin.names) : resolve word searchPath tree = some (.builtin word) := by
  unfold resolve resolveWith
  rw [if_pos (List.contains_iff_mem.mpr h)]

theorem resolve_of_not_mem (h : word ∉ Builtin.names) :
    resolve word searchPath tree = if word = [] then none else (locate word searchPath tree).map (.external word) := by
  unfold resolve resolveWith
  rw [if_neg fun hc => h (List.contains_iff_mem.mp hc)]

theorem resolve_eq_builtin_iff {name : Text} :
    resolve word searchPath tree = some (.builtin name) ↔ name = word ∧ ∃ b, Builtin.ofName? word = some b := by
  have hsome : (∃ b, Builtin.ofName? word = some b) ↔ word ∈ Builtin.names := by
    rw [← Option.ne_none_iff_exists', ne_eq, Builtin.ofName?_eq_none_iff, Classical.not_not]
  rw [hsome]
  by_cases hmem : word ∈ Builtin.names
  · rw [resolve_of_mem hmem]
    simp [hmem, eq_comm]
  · rw [resolve_of_not_mem hmem]
    refine iff_of_false (fun h => ?_) fun h => hmem h.2
    split at h
    · cases h
    · obtain ⟨path, -, h⟩ := Option.map_eq_some_iff.mp h
      cases h

/-- Only the word itself is named, and only a word that is no builtin. -/
theorem resolve_eq_external {name path : Text} (h : resolve word searchPath tree = some (.external name path)) :
    name = word ∧ word ∉ Builtin.names := by
  by_cases hmem : word ∈ Builtin.names
  · rw [resolve_of_mem hmem] at h
    cases h
  · rw [resolve_of_not_mem hmem] at h
    split at h
    · cases h
    · obtain ⟨found, -, h⟩ := Option.map_eq_some_iff.mp h
      cases h
      exact ⟨rfl, hmem⟩

theorem resolve_nil : resolve [] searchPath tree = none := by
  have hmem : ([] : Text) ∉ Builtin.names := by decide
  rw [resolve_of_not_mem hmem, if_pos rfl]

end Command

namespace Shell

variable {s : Shell} {word : Text} (args : List Text)

theorem dispatch_of_builtin {b : Builtin} (h : Builtin.ofName? word = some b) :
    s.dispatch word args = b.run s args := by
  rw [dispatch_eq, h]

theorem dispatch_of_external {name path : Text}
    (h : Command.resolve word s.searchPath s.tree = some (.external name path)) :
    s.dispatch word args = .ok { output := "Executed: " ++ Text.join [' '] (word :: args) } ⟨s, []⟩ := by
  have hnone : Builtin.ofName? word = none := Builtin.ofName?_eq_none_iff.mpr (Command.resolve_eq_external h).2
  rw [dispatch_eq, hnone, h]

theorem dispatch_of_none (h : Command.resolve word s.searchPath s.tree = none) :
    s.dispatch word args = .error (.unresolved word) ⟨s, []⟩ := by
  have hnone : Builtin.ofName? word = none := by
    rw [Builtin.ofName?_eq_none_iff]
    intro hmem
    rw [Command.resolve_of_mem hmem] at h
    cases h
  rw [dispatch_eq, hnone, h]

/-- Whatever the state of the shell, a command is run as what its first token stands for in
    that state. The word of a builtin has one builtin of that name, which runs with the other
    tokens; an entry of the search path is only named, all tokens behind it, and nothing
    changes; a word that stands for nothing, such as the empty one, gives the generic failure,
    and only the record of it tells the word. A word stands for a builtin exactly if there is
    one to run. -/
theorem run_as_resolved {s : Shell} {command word : Text} {args : List Text}
    (ht : Token.tokens s.environment command = word :: args) :
    let reference := Command.resolve word s.searchPath s.tree
    ∃ ran, s.run command = some ran ∧
      (∀ name, reference = some (.builtin name) ↔ name = word ∧ ∃ b, Builtin.ofName? word = some b) ∧
      (∀ name, reference = some (.builtin name) → ∃ b : Builtin, b.name = name ∧
        (∀ other : Builtin, other.name = name → other = b) ∧ ran = conclude command (b.run s args)) ∧
      (∀ name path, reference = some (.external name path) → name = word ∧
        ran = ⟨{ command, output := "Executed: " ++ Text.join [' '] (word :: args) }, s, []⟩) ∧
      (reference = none → ∃ cause, cause.message = word ++ ": command not found" ∧
        ran = ⟨{ command, output := "An error has occurred", isError := true }, s, [.failed command cause]⟩) ∧
      (word = [] → reference = none) := by
  intro reference
  refine ⟨conclude command (s.dispatch word args), run_eq_some_iff.mpr ⟨word, args, ht, rfl⟩,
    fun name => Command.resolve_eq_builtin_iff, fun name h => ?_, fun name path h => ?_, fun h => ?_, ?_⟩
  · obtain ⟨rfl, b, hb⟩ := Command.resolve_eq_builtin_iff.mp h
    refine ⟨b, Builtin.ofName?_eq_some_iff.mp hb, fun other hother => ?_, by rw [dispatch_of_builtin args hb]⟩
    have hsame := Builtin.ofName?_eq_some_iff.mpr hother
    rw [hb] at hsame
    exact (Option.some.inj hsame).symm
  · refine ⟨(Command.resolve_eq_external h).1, ?_⟩
    rw [dispatch_of_external args h]
    rfl
  · refine ⟨.unresolved word, rfl, ?_⟩
    rw [dispatch_of_none args h]
    rfl
  · rintro rfl
    exact Command.resolve_nil

/-- A variable that holds the name of a builtin, one that is not set, and a file on the search
    path. -/
theorem run_as_resolved_variables :
    let session := Session.create "s" (Config.make "/home/user" "pwd" ["/bin"]) .stopped
    let s := (session.execute "touch /bin/run").session.shell
    (Token.tokens s.environment "$USER x" = [Builtin.pwd.name, ['x']] ∧
      ∃ ran, s.run "$USER x" = some ran ∧ ran.value.output = "/home/user") ∧
    (Token.tokens s.environment "$NONE x" = [[], ['x']] ∧
      ∃ ran, s.run "$NONE x" = some ran ∧ ran.value.output = "An error has occurred" ∧
        ∃ cause, ran.records = [.failed "$NONE x" cause] ∧ cause.message = ": command not found") ∧
    (Token.tokens s.environment "run \"a  b\" c" = ["run".toList, "a  b".toList, ['c']] ∧
      ∃ ran, s.run "run \"a  b\" c" = some ran ∧ ran.value.output = "Executed: run a  b c") := by
  intro session s
  have hbuiltin : Token.tokens s.environment "$USER x" = [Builtin.pwd.name, ['x']] := by decide
  have hnone : Token.tokens s.environment "$NONE x" = [[], ['x']] := by decide
  have hexternal : Token.tokens s.environment "run \"a  b\" c" = ["run".toList, "a  b".toList, ['c']] := by decide
  refine ⟨⟨hbuiltin, ?_⟩, ⟨hnone, ?_⟩, ⟨hexternal, ?_⟩⟩
  · obtain ⟨ran, hrun, hiff, hran, -⟩ := run_as_resolved hbuiltin
    obtain ⟨b, -, honly, rfl⟩ := hran _ ((hiff _).mpr ⟨rfl, .pwd, rfl⟩)
    have hpwd : Builtin.pwd = b := honly .pwd rfl
    exact ⟨_, hrun, by rw [← hpwd]; rfl⟩
  · obtain ⟨ran, hrun, -, -, -, hran, hempty⟩ := run_as_resolved hnone
    obtain ⟨cause, hcause, rfl⟩ := hran (hempty rfl)
    exact ⟨_, hrun, rfl, cause, rfl, hcause⟩
  · obtain ⟨ran, hrun, -, -, hran, -⟩ := run_as_resolved hexternal
    have hresolve : Command.resolve "run" s.searchPath s.tree = some (.external "run" "/bin/run") := by decide
    obtain ⟨-, rfl⟩ := hran _ _ hresolve
    exact ⟨_, hrun, by decide⟩

end Shell

end TreeShell
