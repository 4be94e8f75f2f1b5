/-
  TreeShell.Proofs.Command — what a command word stands for.

  The path looked up for a word is a directory's normal form, a slash and the word as it was
  typed. Where all keys are normalized nothing is found under a path that is not, so a word
  that is not made of names (`Path.IsNames`) stands for nothing (`locate_eq_none`); for any
  other that path is what the word means in the directory (`locate_eq_some_iff`).

  Main statement: a builtin stands for itself, any other word for what it means in the first
  directory of the search path in which it means a path that the tree has, and that path lies
  below the directory (`resolveWith_eq_first`).
-/

import TreeShell.Command
import TreeShell.Proofs.Path.Normal
import TreeShell.Proofs.Tree.Consistent

namespace TreeShell.Command

open TreeShell.Path (IsNormal IsNames IsBelow normalize child)

/-- `dir` is the first directory of the search path in which `word` means a path that the
    tree has. -/
structure FirstWith (t : Tree) (searchPath : List Text) (word dir : Text) : Prop where
  first : ∃ before after, searchPath = before ++ dir :: after ∧
    ∀ d ∈ before, Path.resolve word (normalize d) ∉ t.nodes.keys
  found : Path.resolve word (normalize dir) ∈ t.nodes.keys

section

variable {t : Tree} {searchPath : List Text} {word : Text}

theorem locate_eq_some_iff (hword : IsNames word) {path : Text} :
    locate word searchPath t = some path ↔
      ∃ dir, FirstWith t searchPath word dir ∧ path = Path.resolve word (normalize dir) := by
  have hchild : ∀ dir, child (normalize dir) word = Path.resolve word (normalize dir) := fun dir =>
    (Path.resolve_eq_child (Path.isNormal_normalize dir) hword).symm
  unfold locate
  rw [List.find?_map, Option.map_eq_some_iff]
  simp only [List.find?_eq_some_iff_append, Function.comp_apply, hchild, OrderedMap.contains_iff, Bool.not_eq_true',
    ← Bool.not_eq_true]
  constructor
  · rintro ⟨dir, ⟨hfound, before, after, hsplit, hbefore⟩, rfl⟩
    exact ⟨dir, ⟨⟨before, after, hsplit, hbefore⟩, hfound⟩, rfl⟩
  · rintro ⟨dir, ⟨⟨before, after, hsplit, hbefore⟩, hfound⟩, rfl⟩
    exact ⟨dir, ⟨hfound, before, after, hsplit, hbefore⟩, rfl⟩

theorem locate_eq_none (hkeys : ∀ key ∈ t.nodes.keys, IsNormal key) (hne : word ≠ []) (hword : ¬IsNames word) :
    locate word searchPath t = none := by
  unfold locate
  rw [List.find?_eq_none]
  intro path hpath hkey
  obtain ⟨dir, -, rfl⟩ := List.mem_map.mp hpath
  have hnormal := hkeys _ ((t.nodes.contains_iff _).mp hkey)
  exact hword ((Path.isNormal_child_iff (Path.isNormal_normalize dir) hne).mp hnormal)

theorem resolveWith_eq_some_iff (hkeys : ∀ key ∈ t.nodes.keys, IsNormal key) {builtins : List Text}
    (hbuiltin : word ∉ builtins) {r : Reference} :
    resolveWith builtins word searchPath t = some r ↔
      IsNames word ∧ ∃ dir, FirstWith t searchPath word dir ∧ r = .external word (Path.resolve word (normalize dir)) := by
  unfold resolveWith
  rw [if_neg (by simpa using hbuiltin)]
  by_cases hne : word = []
  · rw [if_pos hne]
    exact iff_of_false (Option.some_ne_none r).symm fun h => h.1.ne_nil hne
  · rw [if_neg hne]
    by_cases hword : IsNames word
    · simp only [Option.map_eq_some_iff, locate_eq_some_iff hword, hword, true_and]
      constructor
      · rintro ⟨path, ⟨dir, hfirst, rfl⟩, rfl⟩
        exact ⟨dir, hfirst, rfl⟩
      · rintro ⟨dir, hfirst, rfl⟩
        exact ⟨_, ⟨dir, hfirst, rfl⟩, rfl⟩
    · rw [locate_eq_none hkeys hne hword]
      exact iff_of_false (Option.some_ne_none r).symm fun h => hword h.1

end

/-- With any names for the builtins and any search path: a builtin stands for itself, whatever
    the tree holds. Where all keys are normalized, any other word stands for an entry of the
    tree exactly if it is made of names and some directory of the search path has it, and
    then for the path that it means in the first such directory. That path is a key below
    the directory, so neither the directory itself nor the root. -/
theorem resolveWith_eq_first {t : Tree} (hkeys : ∀ key ∈ t.nodes.keys, IsNormal key)
    (builtins searchPath : List Text) (word : Text) :
    (word ∈ builtins → ∀ u : Tree, resolveWith builtins word searchPath u = some (.builtin word)) ∧
    (word ∉ builtins → ∀ r, resolveWith builtins word searchPath t = some r ↔
      IsNames word ∧ ∃ dir, FirstWith t searchPath word dir ∧ r = .external word (Path.resolve word (normalize dir))) ∧
    ∀ name path, resolveWith builtins word searchPath t = some (.external name path) →
      path ∈ t.nodes.keys ∧ IsNormal path ∧
        ∃ dir, FirstWith t searchPath word dir ∧ path = Path.resolve word (normalize dir) ∧
          IsBelow (normalize dir) path ∧ path ≠ normalize dir ∧ path ≠ Path.root := by
  have hbuiltin : word ∈ builtins → ∀ u : Tree, resolveWith builtins word searchPath u = some (.builtin word) := by
    intro hmem u
    unfold resolveWith
    rw [if_pos (by simpa using hmem)]
  refine ⟨hbuiltin, fun hmem r => resolveWith_eq_some_iff hkeys hmem, fun name path h => ?_⟩
  have hmem : word ∉ builtins := by
    intro hmem
    rw [hbuiltin hmem t] at h
    cases h
  obtain ⟨hword, dir, hfirst, hr⟩ := (resolveWith_eq_some_iff hkeys hmem).mp h
  cases hr
  have hdir : IsNormal (normalize dir) := Path.isNormal_normalize dir
  have hbelow : IsBelow (normalize dir) (Path.resolve word (normalize dir)) := by
    rw [Path.resolve_eq_child hdir hword]
    exact Path.isBelow_child hdir hword
  exact ⟨hfirst.found, Path.isNormal_resolve word _, dir, hfirst, rfl, hbelow, hbelow.ne, hbelow.ne_root⟩

/-- A word of two names, which the second directory of the search path has; with a slash
    behind it the word stands for nothing. -/
theorem resolveWith_eq_first_nested :
    let t := Tree.bare.after [.createDirectory "/bin", .ensureDirectory "/opt/x", .createFile "/opt/x/run" []]
    let searchPath : List Text := ["bin", "//opt/", "/opt/x"]
    (∀ key ∈ t.nodes.keys, IsNormal key) ∧
      resolveWith Builtin.names "x/run" searchPath t = some (.external "x/run" "/opt/x/run") ∧
      (∃ dir, FirstWith t searchPath "x/run" dir ∧ IsBelow (normalize dir) "/opt/x/run") ∧
      resolveWith Builtin.names "x/run/" searchPath t = none := by
  intro t searchPath
  have hkeys : ∀ key ∈ t.nodes.keys, IsNormal key :=
    (Tree.Consistent.bare.changes (Tree.after_changes Tree.bare _)).normal
  have hrun : resolveWith Builtin.names "x/run" searchPath t = some (.external "x/run" "/opt/x/run") := by decide
  obtain ⟨-, -, hplace⟩ := resolveWith_eq_first hkeys Builtin.names searchPath "x/run"
  obtain ⟨-, -, dir, hfirst, -, hbelow, -⟩ := hplace _ _ hrun
  obtain ⟨-, hiff, -⟩ := resolveWith_eq_first hkeys Builtin.names searchPath "x/run/"
  refine ⟨hkeys, hrun, ⟨dir, hfirst, hbelow⟩, Option.eq_none_iff_forall_ne_some.mpr fun r hr => ?_⟩
  obtain ⟨hnames, -⟩ := (hiff (by decide) r).mp hr
  exact hnames.trailing rfl

end TreeShell.Command
