/-
  TreeShell.Proofs.Tree.Tampering — single edits behind a tree's back.

  A node can be put at any key, or deleted, without regard to the directory above or to the
  nodes below (`Edit`). In a sound tree a directory lists exactly the names under which it
  has nodes (`Sound.mem_childrenAt_iff`). So a key cannot come or go while all other nodes
  stay (`Sound.mem_keys_of_agree`), and with the keys the names at the edited key are given.

  Main statement: an edit of a consistent tree is not reported exactly if it changes neither
  the keys nor the set of names at its key and leaves the root a directory
  (`edit_unreported_iff`).
-/

import TreeShell.Proofs.Tree.Consistent

namespace TreeShell.Tree

open TreeShell.Path

inductive Edit where
  /-- A node at a key as it stands, in place of the one that is there. -/
  | put (key : Text) (node : Node)
  | delete (key : Text)

namespace Edit

def key : Edit → Text
  | .put key _ => key
  | .delete key => key

/-- The names that the edit writes into the tree. -/
def names : Edit → List Text
  | .put _ node => node.children
  | .delete _ => []

end Edit

def edit (t : Tree) : Edit → Tree
  | .put key node => t.put key node
  | .delete key => t.delete key

/-- The names listed at the key; a file lists none, nor does a key without a node. -/
def childrenAt (t : Tree) (key : Text) : List Text := ((t.nodes.get? key).map Node.children).getD []

theorem mem_childrenAt {t : Tree} {key name : Text} :
    name ∈ t.childrenAt key ↔ ∃ children, t.nodes.get? key = some (.directory children) ∧ name ∈ children := by
  unfold childrenAt
  cases h : t.nodes.get? key with
  | none => simp
  | some node => cases node <;> simp [Node.children]

/-! ## Listed names and keys -/

section

variable {t u : Tree} {key : Text}

theorem Sound.mem_childrenAt_iff (h : t.Sound) {dir name : Text} (hd : IsNormal dir) (hn : IsName name) :
    name ∈ t.childrenAt dir ↔ child dir name ∈ t.nodes.keys := by
  rw [mem_childrenAt]
  constructor
  · rintro ⟨children, hdir, hm⟩
    exact h.backed dir children hdir name hm
  · exact h.listed dir name hd hn

theorem childrenAt_congr (h : t.nodes.get? key = u.nodes.get? key) : t.childrenAt key = u.childrenAt key := by
  unfold childrenAt
  rw [h]

/-- Soundness is a matter of the keys, of the names listed at each and of the root. -/
theorem Sound.of_same (h : t.Sound) (hkeys : ∀ k, k ∈ u.nodes.keys ↔ k ∈ t.nodes.keys)
    (hnames : ∀ dir name, name ∈ u.childrenAt dir ↔ name ∈ t.childrenAt dir)
    (hroot : u.isDirectoryAt Path.root = true) : u.Sound := by
  refine ⟨hroot, fun k hk => h.normal k ((hkeys k).mp hk), fun dir name hd hn hk => ?_,
    fun dir children hdir name hm => ?_⟩
  · have hlisted := (h.mem_childrenAt_iff hd hn).mpr ((hkeys _).mp hk)
    exact mem_childrenAt.mp ((hnames dir name).mpr hlisted)
  · obtain ⟨children', hdir', hm'⟩ := mem_childrenAt.mp ((hnames dir name).mp (mem_childrenAt.mpr ⟨children, hdir, hm⟩))
    exact (hkeys _).mpr (h.backed dir children' hdir' name hm')

/-- The trees hold the same but at `key`. -/
def AgreeBut (t u : Tree) (key : Text) : Prop := ∀ k, k ≠ key → t.nodes.get? k = u.nodes.get? k

theorem edit_agreeBut (t : Tree) (e : Edit) : t.AgreeBut (t.edit e) e.key := by
  intro k hk
  cases e with
  | put key node =>
    have hne : key ≠ k := Ne.symm hk
    show _ = (t.put key node).nodes.get? k
    rw [get?_put, if_neg hne]
  | delete key =>
    have hne : key ≠ k := Ne.symm hk
    show _ = (t.nodes.erase key).get? k
    rw [OrderedMap.get?_erase, if_neg hne]

/-- Whether there is a node at one key shows elsewhere: in the names of the directory above. -/
theorem Sound.mem_keys_of_agree (ht : t.Sound) (hu : u.Sound) (h : t.AgreeBut u key) {k : Text}
    (hk : k ∈ t.nodes.keys) : k ∈ u.nodes.keys := by
  by_cases e : k = key
  · rcases (ht.normal k hk).cases_child with hroot | ⟨dir, name, hd, hn, hchild⟩
    · obtain ⟨children, hc⟩ := isDirectoryAt_iff.mp hu.root
      exact OrderedMap.mem_keys_of_get? (hroot ▸ hc)
    · have hdir : dir ≠ key := by
        intro hdir
        rw [← e, hchild] at hdir
        exact child_ne_self hd hn hdir.symm
      rw [hchild] at hk ⊢
      rw [← hu.mem_childrenAt_iff hd hn, ← childrenAt_congr (h dir hdir)]
      exact (ht.mem_childrenAt_iff hd hn).mpr hk
  · rwa [OrderedMap.mem_keys_iff, ← h k e, ← OrderedMap.mem_keys_iff]

/-- Two sound trees with the same keys list the same names. -/
theorem Sound.mem_childrenAt_of_keys (ht : t.Sound) (hu : u.Sound) (hkeys : ∀ k ∈ t.nodes.keys, k ∈ u.nodes.keys)
    {name : Text} (hn : IsName name) (h : name ∈ t.childrenAt key) : name ∈ u.childrenAt key := by
  obtain ⟨children, hdir, -⟩ := mem_childrenAt.mp h
  have hd : IsNormal key := ht.isNormal hdir
  exact (hu.mem_childrenAt_iff hd hn).mpr (hkeys _ ((ht.mem_childrenAt_iff hd hn).mp h))

end

/-! ## Edits -/

theorem isName_of_mem_childrenAt_edit {t : Tree} {e : Edit} (he : ∀ name ∈ e.names, IsName name) {name : Text}
    (h : name ∈ (t.edit e).childrenAt e.key) : IsName name := by
  obtain ⟨children, hdir, hm⟩ := mem_childrenAt.mp h
  cases e with
  | put key node =>
    have hnode : node = .directory children := by simpa [edit, get?_put, Edit.key] using hdir
    exact he name (by rw [hnode]; exact hm)
  | delete key => simp [edit, delete, Edit.key] at hdir

/-- Put a node at any key of a consistent tree, its children being names, or delete a node:
    no problem is found exactly if the keys are what they were, the same set of names is
    listed at the edited key, and the root is still a directory. -/
theorem edit_unreported_iff {t : Tree} (h : t.Consistent) (e : Edit) (he : ∀ name ∈ e.names, IsName name) :
    (t.edit e).problems = [] ↔
      (∀ key, key ∈ (t.edit e).nodes.keys ↔ key ∈ t.nodes.keys) ∧
      (∀ name, name ∈ (t.edit e).childrenAt e.key ↔ name ∈ t.childrenAt e.key) ∧
      (t.edit e).isDirectoryAt root = true := by
  have hagree := t.edit_agreeBut e
  rw [problems_eq_nil_iff]
  constructor
  · intro hs
    have hkept : ∀ key ∈ t.nodes.keys, key ∈ (t.edit e).nodes.keys := fun _ =>
      h.toSound.mem_keys_of_agree hs hagree
    have hold : ∀ key ∈ (t.edit e).nodes.keys, key ∈ t.nodes.keys := fun _ =>
      hs.mem_keys_of_agree h.toSound fun k hk => (hagree k hk).symm
    refine ⟨fun key => ⟨hold key, hkept key⟩, fun name => ⟨fun hm => ?_, fun hm => ?_⟩, hs.root⟩
    · exact hs.mem_childrenAt_of_keys h.toSound hold (isName_of_mem_childrenAt_edit he hm) hm
    · obtain ⟨children, hdir, hlisted⟩ := mem_childrenAt.mp hm
      exact h.toSound.mem_childrenAt_of_keys hs hkept ((h.wellNamed _ children hdir).2 name hlisted) hm
  · rintro ⟨hkeys, hnames, hroot⟩
    refine h.toSound.of_same hkeys (fun dir name => ?_) hroot
    by_cases hdir : dir = e.key
    · rw [hdir]
      exact hnames name
    · rw [childrenAt_congr (hagree dir hdir)]

/-- A name written twice where it was listed once goes unreported; a file in place of a
    directory that lists a name does not. -/
theorem edit_unreported_iff_listed_twice :
    let t := bare.after [.createDirectory "/a", .createFile "/a/b" "x"]
    t.Consistent ∧ (t.edit (.put "/a" (.directory ["b", "b"]))).problems = [] ∧
      (t.edit (.put "/a" (.file "x"))).problems ≠ [] := by
  intro t
  have h : t.Consistent := Consistent.bare.changes (after_changes bare _)
  refine ⟨h, ?_, fun hnone => ?_⟩
  · have hkeys : (t.edit (.put "/a" (.directory ["b", "b"]))).nodes.keys = t.nodes.keys := by decide
    have hwas : t.childrenAt "/a" = ["b".toList] := by decide
    have hnow : (t.edit (.put "/a" (.directory ["b", "b"]))).childrenAt "/a" = ["b".toList, "b".toList] := by decide
    refine (edit_unreported_iff h _ (by simp [Edit.names, Node.children, IsName])).mpr
      ⟨fun key => by rw [hkeys], fun name => ?_, by decide⟩
    show name ∈ (t.edit _).childrenAt "/a" ↔ name ∈ t.childrenAt "/a"
    rw [hwas, hnow]
    simp
  · obtain ⟨-, hnames, -⟩ := (edit_unreported_iff h _ (by simp [Edit.names, Node.children])).mp hnone
    exact absurd ((hnames "b").mpr (by decide)) (by decide)

end TreeShell.Tree
