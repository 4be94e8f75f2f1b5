/-
  TreeShell.Proofs.Tree.Growth — trees from which nothing is taken away.

  A tree that grows (`Grows`) keeps its keys and its directories keep their names, each in
  its place, with new ones only behind them. No node changes its kind. A file can lose what
  it holds, but neither an old file nor a new one gets any text. Growing is reflexive and
  transitive, so a run grows a tree if each of its steps does.

  A change lets the tree grow if it puts no text into a file (`Change.grows`): making a
  directory is such a change, and so is making a file without text.
-/

import TreeShell.Proofs.Tree.Change

namespace TreeShell.Tree

open TreeShell.Path

structure Grows (t u : Tree) : Prop where
  keys : t.nodes.keys <+: u.nodes.keys
  directory : ∀ {key children}, t.nodes.get? key = some (.directory children) →
    ∃ more, u.nodes.get? key = some (.directory more) ∧ children <+: more
  file : ∀ {key content}, t.nodes.get? key = some (.file content) →
    u.nodes.get? key = some (.file content) ∨ u.nodes.get? key = some (.file [])
  fresh : ∀ {key node}, t.nodes.get? key = none → u.nodes.get? key = some node →
    node = .file [] ∨ node.kind = .directory

theorem Grows.refl (t : Tree) : t.Grows t where
  keys := List.prefix_refl _
  directory h := ⟨_, h, List.prefix_refl _⟩
  file h := .inl h
  fresh hnone h := by rw [hnone] at h; cases h

section

variable {t u : Tree} (h : t.Grows u)

include h

/-- No node changes its kind. -/
theorem Grows.kind {key : Text} {node : Node} (hk : t.nodes.get? key = some node) :
    ∃ node', u.nodes.get? key = some node' ∧ node'.kind = node.kind := by
  cases node with
  | directory children =>
    obtain ⟨more, hmore, -⟩ := h.directory hk
    exact ⟨_, hmore, rfl⟩
  | file content =>
    rcases h.file hk with hsame | hempty
    · exact ⟨_, hsame, rfl⟩
    · exact ⟨_, hempty, rfl⟩

theorem Grows.isDirectory {path : Text} (hdir : t.isDirectory path = true) : u.isDirectory path = true := by
  obtain ⟨children, hchildren⟩ := isDirectoryAt_iff.mp hdir
  obtain ⟨more, hmore, -⟩ := h.directory hchildren
  exact isDirectoryAt_iff.mpr ⟨more, hmore⟩

theorem Grows.isFile {path : Text} (hfile : t.isFile path = true) : u.isFile path = true := by
  unfold Tree.isFile node? at hfile ⊢
  split at hfile
  · rename_i content hcontent
    rcases h.file hcontent with hsame | hempty
    · rw [hsame]
    · rw [hempty]
  · cases hfile

theorem Grows.trans {v : Tree} (h' : u.Grows v) : t.Grows v where
  keys := h.keys.trans h'.keys
  directory hk := by
    obtain ⟨more, hmore, hpre⟩ := h.directory hk
    obtain ⟨most, hmost, hpre'⟩ := h'.directory hmore
    exact ⟨most, hmost, hpre.trans hpre'⟩
  file hk := by
    rcases h.file hk with hsame | hempty
    · exact h'.file hsame
    · exact .inr ((h'.file hempty).elim id id)
  fresh := by
    intro key node hnone hnode
    cases hu : u.nodes.get? key with
    | none => exact h'.fresh hu hnode
    | some first =>
      rcases h.fresh hnone hu with rfl | hkind
      · left
        have hempty := (h'.file hu).elim id id
        rw [hnode] at hempty
        exact Option.some.inj hempty
      · right
        obtain ⟨last, hlast, hsame⟩ := h'.kind hu
        rw [hnode] at hlast
        rw [Option.some.inj hlast, hsame, hkind]

end

/-! ## Changes without text -/

theorem Change.grows {t u : Tree} (h : Change t u)
    (hempty : ∀ key content, u.nodes.get? key = some (.file content) →
      t.nodes.get? key = some (.file content) ∨ content = []) : t.Grows u where
  keys := h.keys
  directory hk := h.directory hk
  file := by
    intro key content hk
    obtain ⟨content', hu⟩ := h.file hk
    rcases hempty key content' hu with ht | rfl
    · rw [hk] at ht
      exact .inl (ht ▸ hu)
    · exact .inr hu
  fresh := by
    intro key node hnone hu
    cases node with
    | directory children => exact .inr rfl
    | file content =>
      rcases hempty key content hu with ht | rfl
      · rw [hnone] at ht; cases ht
      · exact .inl rfl

section

variable {t : Tree} {path : Text} {grown : Grown}

theorem createDirectory_grows (h : t.createDirectory path = (grown, none)) : t.Grows grown.tree := by
  refine (createDirectory_change h).grows fun key content hfile => ?_
  rcases (createDirectory_hung h).file_cases hfile with hold | hnew
  · exact .inl hold
  · cases hnew

theorem createFile_nil_grows (h : t.createFile path [] = (grown, none)) : t.Grows grown.tree := by
  refine (createFile_change h).grows fun key content hfile => ?_
  rcases createFile_hung_or_put h with hhung | ⟨old, -, hput⟩
  · rcases hhung.file_cases hfile with hold | hnew
    · exact .inl hold
    · exact .inr (Node.file.inj hnew).symm
  · rw [hput, get?_put] at hfile
    split at hfile
    · exact .inr (Node.file.inj (Option.some.inj hfile)).symm
    · exact .inl hfile

end

end TreeShell.Tree
