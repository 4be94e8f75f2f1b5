/-
  TreeShell.Proofs.Tree.Creation — what a creation that succeeds has done.

  What is made at a path leaves every other path as it was, except the directory above: that
  lists the leaf behind its other children if it is new (`Placed`). This holds of a new node
  (`Hung.placed`) as of a file that is written over (`put_placed`).

  Main statement: in a consistent tree a creation fails exactly where the path is taken or
  has no directory above it, and then changes nothing. Otherwise what was made can be read
  under every spelling of the path, and nothing else has changed but the directory above
  (`creation_changes_its_place_alone`).
-/

import TreeShell.Proofs.Tree.Consistent

namespace TreeShell.Tree

open TreeShell.Path

/-! ## What is where after a creation -/

/-- What a creation at `path` made of `t`, apart from the node itself: the directory above
    has the leaf behind its children if there was nothing, and any other path has the node
    that it had. -/
structure Placed (t u : Tree) (path : Text) : Prop where
  elsewhere : ∀ q, normalize q ≠ normalize path → (split (normalize path)).1 ≠ some (normalize q) →
    u.node? q = t.node? q
  above : ∃ parent leaf children, split (normalize path) = (some parent, leaf) ∧
    t.node? parent = some (.directory children) ∧
    u.node? parent = some (.directory (if t.exists path = true then children else children ++ [leaf]))

section

variable {t u : Tree} {path : Text} {node : Node}

theorem Hung.placed (hs : t.Sound) (h : t.Hung (normalize path) node u) : t.Placed u path := by
  cases h with
  | below dir name children hd hn hkey hdir hfresh =>
    have hsplit : split (normalize path) = (some dir, name) := hkey ▸ split_child hd hn
    have hnew : t.exists path = false := congrArg Option.isSome hfresh
    have hnormal : normalize dir = dir := hd
    have hunlisted : name ∉ children := hs.not_mem_of_fresh hdir (hkey ▸ hfresh)
    refine ⟨fun q hq hparent => ?_, dir, name, children, hsplit, ?_, ?_⟩
    · have hdirectory : dir ≠ normalize q := by
        rw [hsplit] at hparent
        exact fun e => hparent (congrArg some e)
      unfold node?
      rw [get?_hang, if_neg hdirectory, if_neg (hkey ▸ Ne.symm hq)]
    · unfold node?
      rw [hnormal, hdir]
    · unfold node?
      rw [hnormal, get?_hang, if_pos rfl, if_neg (by simpa using hunlisted), hnew]
      rfl

theorem put_placed (hs : t.Sound) {old content : Text} (hold : t.nodes.get? (normalize path) = some (.file old)) :
    t.Placed (t.put (normalize path) (.file content)) path := by
  obtain ⟨parent, leaf, hsplit, hdir⟩ := hs.hasPlace hold
  obtain ⟨children, hchildren⟩ := isDirectoryAt_iff.mp hdir
  have hnormal : normalize parent = parent := hs.isNormal hchildren
  have htaken : t.exists path = true := congrArg Option.isSome hold
  have hne : normalize path ≠ parent := by
    intro e
    rw [e, hchildren] at hold
    cases hold
  refine ⟨fun q hq _ => ?_, parent, leaf, children, hsplit, ?_, ?_⟩
  · unfold node?
    rw [get?_put, if_neg (Ne.symm hq)]
  · unfold node?
    rw [hnormal, hchildren]
  · unfold node?
    rw [hnormal, get?_put, if_neg hne, htaken, hchildren]
    rfl

theorem read_eq {q content : Text} (h : t.nodes.get? (normalize q) = some (.file content)) :
    t.read q = .ok content := by
  unfold read
  simp only [h]

end

/-! ## Creations -/

section

variable {t : Tree} {path : Text}

theorem createFile_fails_iff (hs : t.Sound) (content : Text) :
    (t.perform (.createFile path content)).2 ≠ none ↔
      t.isDirectory path = true ∨ (t.isFile path = false ∧ ¬t.HasPlace (normalize path)) := by
  have hfile : t.isFile path = true → t.HasPlace (normalize path) := by
    intro h
    unfold isFile node? at h
    split at h
    · rename_i old hold
      exact hs.hasPlace hold
    · cases h
  have hdirectory : t.isDirectory path = t.isDirectoryAt (normalize path) := rfl
  show ¬(t.createFile path content).2 = none ↔ _
  rw [createFile_succeeds_iff hs, hdirectory, Classical.not_and_iff_not_or_not, Bool.not_eq_false]
  refine or_congr_right ⟨fun hplace => ⟨?_, hplace⟩, And.right⟩
  rw [← Bool.not_eq_true]
  exact fun h => hplace (hfile h)

theorem createDirectory_fails_iff :
    (t.perform (.createDirectory path)).2 ≠ none ↔ t.exists path = true ∨ ¬t.HasPlace (normalize path) := by
  have hexists : t.exists path = (t.nodes.get? (normalize path)).isSome := rfl
  show ¬(t.createDirectory path).2 = none ↔ _
  rw [createDirectory_succeeds_iff, hexists, Classical.not_and_iff_not_or_not, ← ne_eq, Option.isSome_iff_ne_none]

/-- A call that fails with its tree unchanged. -/
theorem perform_failed {c : Call} (hfailed : ∀ grown e, t.answer c = (grown, some e) → grown = ⟨t, []⟩)
    (h : (t.perform c).2 ≠ none) : (t.perform c).1 = t := by
  obtain ⟨e, he⟩ := Option.ne_none_iff_exists'.mp h
  have hgrown : (t.answer c).1 = ⟨t, []⟩ := hfailed _ e (Prod.ext rfl he)
  exact congrArg Grown.tree hgrown

/-- In a consistent tree a file cannot be made where a directory is, nor, unless it is there
    already, where no directory is above; a directory cannot be made where anything is, nor
    where no directory is above. What fails changes nothing. What succeeds is there under
    every spelling of its path, and at most the directory above changed with it. -/
theorem creation_changes_its_place_alone {t : Tree} (h : t.Consistent) (path content : Text) :
    let file := t.perform (.createFile path content)
    let dir := t.perform (.createDirectory path)
    (file.2 ≠ none ↔ t.isDirectory path = true ∨ (t.isFile path = false ∧ ¬t.HasPlace (normalize path))) ∧
    (dir.2 ≠ none ↔ t.exists path = true ∨ ¬t.HasPlace (normalize path)) ∧
    (file.2 ≠ none → file.1 = t) ∧
    (dir.2 ≠ none → dir.1 = t) ∧
    (file.2 = none → (∀ q, normalize q = normalize path → file.1.read q = .ok content) ∧ t.Placed file.1 path) ∧
    (dir.2 = none → (∀ q, normalize q = normalize path → dir.1.node? q = some (.directory [])) ∧
      t.Placed dir.1 path) := by
  intro file dir
  refine ⟨createFile_fails_iff h.toSound content, createDirectory_fails_iff,
    perform_failed fun _ _ => createFile_failed, perform_failed fun _ _ => createDirectory_failed, ?_, ?_⟩
  · intro hnone
    have hanswer : t.createFile path content = ((t.createFile path content).1, none) := Prod.ext rfl hnone
    have hfile : file.1 = (t.createFile path content).1.tree := rfl
    rw [hfile]
    rcases createFile_hung_or_put hanswer with hhung | ⟨old, hold, hput⟩
    · exact ⟨fun q hq => read_eq (hq ▸ hhung.get?_self), hhung.placed h.toSound⟩
    · rw [hput]
      refine ⟨fun q hq => read_eq ?_, put_placed h.toSound hold⟩
      rw [hq, get?_put, if_pos rfl]
  · intro hnone
    have hanswer : t.createDirectory path = ((t.createDirectory path).1, none) := Prod.ext rfl hnone
    have hhung := createDirectory_hung hanswer
    exact ⟨fun q hq => (congrArg _ hq).trans hhung.get?_self, hhung.placed h.toSound⟩

/-- Another spelling of a file's path: its content is replaced, and nothing can be made there
    besides. -/
theorem creation_changes_its_place_alone_spelled :
    let t := bare.after [.createDirectory "/docs", .createFile "docs/a" "old"]
    let written := t.perform (.createFile "//docs/a/" "new")
    t.Consistent ∧ written.2 = none ∧ written.1.read "docs//a" = .ok "new" ∧ t.Placed written.1 "//docs/a/" ∧
      (t.perform (.createDirectory "//docs/a/")).2 ≠ none := by
  intro t written
  have h : t.Consistent := Consistent.bare.changes (after_changes bare _)
  obtain ⟨-, hdir, -, -, hfile, -⟩ := creation_changes_its_place_alone h "//docs/a/" "new"
  have hnone : written.2 = none := by decide
  obtain ⟨hread, hplaced⟩ := hfile hnone
  exact ⟨h, hnone, hread "docs//a" (by decide), hplaced, hdir.mpr (.inl (by decide))⟩

end

end TreeShell.Tree
