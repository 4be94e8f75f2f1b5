/-
  TreeShell.Proofs.Tree.Consistent — trees that hang together.

  `Sound` is what an empty report of `Tree.problems` means (`problems_eq_nil_iff`): the
  root is a directory, every key is normalized, every other node is listed by the
  directory above it and every listed name has a node. `Consistent` adds what the report
  does not look at: that the listed names are names, and listed once. Every change keeps
  a consistent tree consistent (`Consistent.change`).
-/

import TreeShell.Proofs.Tree.Change
import TreeShell.Tree.Problem

namespace TreeShell.Tree

open TreeShell.Path

structure Sound (t : Tree) : Prop where
  root : t.isDirectoryAt root = true
  normal : ∀ key ∈ t.nodes.keys, IsNormal key
  listed : ∀ dir name, IsNormal dir → IsName name → child dir name ∈ t.nodes.keys →
    ∃ children, t.nodes.get? dir = some (.directory children) ∧ name ∈ children
  backed : ∀ dir children, t.nodes.get? dir = some (.directory children) →
    ∀ name ∈ children, child dir name ∈ t.nodes.keys

/-- Every directory lists names, and no name twice. -/
def WellNamed (t : Tree) : Prop :=
  ∀ dir children, t.nodes.get? dir = some (.directory children) →
    children.Nodup ∧ ∀ name ∈ children, IsName name

structure Consistent (t : Tree) : Prop extends Sound t where
  wellNamed : t.WellNamed

/-! ## What the report of problems says -/

theorem parentProblems_root (t : Tree) : t.parentProblems Path.root = [] := by
  simp [parentProblems, split_root]

theorem parentProblems_child (t : Tree) {dir name : Text} (hd : IsNormal dir) (hn : IsName name) :
    t.parentProblems (child dir name) = [] ↔
      ∃ children, t.nodes.get? dir = some (.directory children) ∧ name ∈ children := by
  unfold parentProblems
  rw [split_child hd hn]
  simp only
  split
  · rename_i children hdir
    simp [hdir]
  · rename_i hdir
    constructor
    · intro h; cases h
    · rintro ⟨children, hc, -⟩
      exact absurd hc (hdir children)

theorem childProblems_directory (t : Tree) (dir : Text) (children : List Text) :
    t.childProblems dir (.directory children) = [] ↔ ∀ name ∈ children, child dir name ∈ t.nodes.keys := by
  simp [childProblems, List.filter_eq_nil_iff, OrderedMap.contains_iff]

theorem nodeProblems_eq_nil_iff (t : Tree) (key : Text) (node : Node) :
    t.nodeProblems key node = [] ↔ IsNormal key ∧ t.parentProblems key = [] ∧ t.childProblems key node = [] := by
  unfold nodeProblems IsNormal
  by_cases h : key = normalize key
  · rw [if_pos h, List.append_eq_nil_iff]
    simp [← h]
  · rw [if_neg h]
    simp [Ne.symm h]

/-- No problem is found exactly in the sound trees. -/
theorem problems_eq_nil_iff (t : Tree) : t.problems = [] ↔ t.Sound := by
  have hroot : t.rootProblems = [] ↔ t.isDirectoryAt Path.root = true := by simp [rootProblems]
  have hnodes : (∀ e ∈ t.nodes.entries, t.nodeProblems e.1 e.2 = []) ↔
      ∀ key node, t.nodes.get? key = some node → t.nodeProblems key node = [] := by
    simp [OrderedMap.get?_eq_some_iff]
  unfold problems
  rw [List.append_eq_nil_iff, hroot, List.flatMap_eq_nil_iff]
  show _ ∧ (∀ e ∈ t.nodes.entries, t.nodeProblems e.1 e.2 = []) ↔ _
  rw [hnodes]
  constructor
  · rintro ⟨hr, h⟩
    refine ⟨hr, fun key hk => ?_, fun dir name hd hn hk => ?_, fun dir children hdir => ?_⟩
    · obtain ⟨node, hnode⟩ := (t.nodes.mem_keys_iff key).mp hk
      exact ((nodeProblems_eq_nil_iff t key node).mp (h key node hnode)).1
    · obtain ⟨node, hnode⟩ := (t.nodes.mem_keys_iff _).mp hk
      have := ((nodeProblems_eq_nil_iff t _ node).mp (h _ node hnode)).2.1
      exact (parentProblems_child t hd hn).mp this
    · have := ((nodeProblems_eq_nil_iff t dir _).mp (h dir _ hdir)).2.2
      exact (childProblems_directory t dir children).mp this
  · intro hs
    refine ⟨hs.root, fun key node hnode => ?_⟩
    have hk : key ∈ t.nodes.keys := OrderedMap.mem_keys_of_get? hnode
    refine (nodeProblems_eq_nil_iff t key node).mpr ⟨hs.normal key hk, ?_, ?_⟩
    · rcases (hs.normal key hk).cases_child with rfl | ⟨dir, name, hd, hn, rfl⟩
      · exact parentProblems_root t
      · exact (parentProblems_child t hd hn).mpr (hs.listed dir name hd hn hk)
    · cases node with
      | directory children => exact (childProblems_directory t key children).mpr (hs.backed key children hnode)
      | file content => rfl

/-- Soundness does not depend on the order of the keys. -/
theorem Sound.congr {t u : Tree} (h : ∀ key, t.nodes.get? key = u.nodes.get? key) (hs : t.Sound) : u.Sound := by
  have hkeys : ∀ key, key ∈ t.nodes.keys ↔ key ∈ u.nodes.keys := fun key => by
    rw [OrderedMap.mem_keys_iff, OrderedMap.mem_keys_iff, h]
  refine ⟨?_, fun key hk => hs.normal key ((hkeys key).mpr hk), fun dir name hd hn hk => ?_,
    fun dir children hdir name hm => ?_⟩
  · have := hs.root
    rw [isDirectoryAt_iff] at this ⊢
    rwa [← h]
  · rw [← h]
    exact hs.listed dir name hd hn ((hkeys _).mpr hk)
  · rw [← h] at hdir
    exact (hkeys _).mp (hs.backed dir children hdir name hm)

/-! ## Consistency is kept -/

theorem Consistent.bare : bare.Consistent := by
  have hdir : ∀ dir children, Tree.bare.nodes.get? dir = some (.directory children) → children = [] := by
    intro dir children h
    rw [get?_bare] at h
    split at h
    · cases h; rfl
    · cases h
  have hkeys : Tree.bare.nodes.keys = [Path.root] := rfl
  refine ⟨⟨rfl, fun key hk => ?_, fun dir name hd hn hk => ?_, fun dir children h name hm => ?_⟩,
    fun dir children h => ?_⟩
  · rw [hkeys, List.mem_singleton] at hk
    rw [hk]; exact isNormal_root
  · rw [hkeys, List.mem_singleton] at hk
    exact absurd hk (child_ne_root hd hn)
  · rw [hdir dir children h] at hm; cases hm
  · rw [hdir dir children h]
    exact ⟨List.nodup_nil, by simp⟩

section

variable {t t' : Tree}

theorem Sound.isNormal (h : t.Sound) {key : Text} {node : Node} (hk : t.nodes.get? key = some node) : IsNormal key :=
  h.normal key (OrderedMap.mem_keys_of_get? hk)

/-- A directory does not list a name without a node. -/
theorem Sound.not_mem_of_fresh (h : t.Sound) {dir name : Text} {children : List Text}
    (hdir : t.nodes.get? dir = some (.directory children)) (hfresh : t.nodes.get? (child dir name) = none) :
    name ∉ children := fun hm =>
  (t.nodes.get?_eq_none_iff _).mp hfresh (h.backed dir children hdir name hm)

theorem Consistent.change (h : t.Consistent) (hc : Change t t') : t'.Consistent := by
  have hold : ∀ key ∈ t.nodes.keys, key ∈ t'.nodes.keys := fun key hk => hc.keys.subset hk
  refine ⟨⟨hc.isDirectoryAt h.root, fun key hk => ?_, fun dir name hd hn hk => ?_,
    fun dir children hdir name hm => ?_⟩, fun dir children hdir => ?_⟩
  · rcases hc.mem_keys_cases hk with hk | ⟨dir, name, -, hd, hn, rfl, -⟩
    · exact h.normal key hk
    · exact isNormal_child hd hn
  · rcases hc.mem_keys_cases hk with hk | ⟨dir', name', children, hd', hn', e, hdir, hm⟩
    · obtain ⟨children, hdir, hm⟩ := h.listed dir name hd hn hk
      obtain ⟨more, hmore, hpre⟩ := hc.directory hdir
      exact ⟨more, hmore, hpre.subset hm⟩
    · obtain ⟨rfl, rfl⟩ := child_inj hd hn hd' hn' e
      exact ⟨children, hdir, hm⟩
  · rcases hc.children_cases hdir with hwas | rfl | ⟨new, old, -, hwas, hfresh, hkey, rfl⟩
    · exact hold _ (h.backed dir children hwas name hm)
    · cases hm
    · rw [if_neg (by simpa using h.not_mem_of_fresh hwas hfresh)] at hm
      rcases List.mem_append.mp hm with hm | hm
      · exact hold _ (h.backed dir old hwas name hm)
      · rw [List.mem_singleton.mp hm]; exact hkey
  · rcases hc.children_cases hdir with hwas | rfl | ⟨new, old, hnew, hwas, hfresh, -, rfl⟩
    · exact h.wellNamed dir children hwas
    · exact ⟨List.nodup_nil, by simp⟩
    · have hnot := h.not_mem_of_fresh hwas hfresh
      obtain ⟨hnodup, hnames⟩ := h.wellNamed dir old hwas
      rw [if_neg (by simpa using hnot)]
      refine ⟨List.nodup_append.mpr ⟨hnodup, by simp, ?_⟩, fun n hn => ?_⟩
      · intro a ha b hb e
        rw [List.mem_singleton] at hb
        exact hnot (by rwa [← hb, ← e])
      · rcases List.mem_append.mp hn with hn | hn
        · exact hnames n hn
        · rw [List.mem_singleton.mp hn]; exact hnew

theorem Consistent.changes (h : t.Consistent) (hc : Changes t t') : t'.Consistent :=
  hc.keeps (P := Consistent) (fun hu hc => hu.change hc) h

end

/-! ## Where nodes can be made -/

/-- There is a directory for the key to hang below. -/
def HasPlace (t : Tree) (key : Text) : Prop :=
  ∃ parent leaf, split key = (some parent, leaf) ∧ t.isDirectoryAt parent = true

section

variable {t : Tree} {path : Text}

theorem attach_succeeds_iff {key : Text} {node : Node} : (t.attach key node).2 = none ↔ t.HasPlace key := by
  unfold attach HasPlace isDirectoryAt
  rcases split key with ⟨_ | parent, leaf⟩
  · simp
  · cases h : t.nodes.get? parent with
    | none => simp [h]
    | some n => cases n <;> simp [h]

theorem createDirectory_succeeds_iff :
    (t.createDirectory path).2 = none ↔ t.nodes.get? (normalize path) = none ∧ t.HasPlace (normalize path) := by
  unfold createDirectory
  simp only
  split
  · rename_i hc
    have htaken : t.nodes.get? (normalize path) ≠ none := by
      intro e
      rw [(t.nodes.contains_eq_false_iff _).mpr e] at hc
      cases hc
    exact iff_of_false (Option.some_ne_none _) fun h => htaken h.1
  · rename_i hc
    have hfresh := (t.nodes.contains_eq_false_iff _).mp (by simpa using hc)
    rw [attach_succeeds_iff]
    simp [hfresh]

theorem Sound.hasPlace (h : t.Sound) {key content : Text} (hk : t.nodes.get? key = some (.file content)) :
    t.HasPlace key := by
  rcases (h.isNormal hk).cases_child with rfl | ⟨dir, name, hd, hn, rfl⟩
  · obtain ⟨children, hroot⟩ := isDirectoryAt_iff.mp h.root
    rw [hk] at hroot; cases hroot
  · obtain ⟨children, hdir, -⟩ := h.listed dir name hd hn (OrderedMap.mem_keys_of_get? hk)
    exact ⟨dir, name, split_child hd hn, isDirectoryAt_iff.mpr ⟨children, hdir⟩⟩

theorem createFile_succeeds_iff (h : t.Sound) {content : Text} :
    (t.createFile path content).2 = none ↔
      t.isDirectoryAt (normalize path) = false ∧ t.HasPlace (normalize path) := by
  unfold createFile isDirectoryAt
  simp only
  cases hk : t.nodes.get? (normalize path) with
  | none => simp only [attach_succeeds_iff, true_and]
  | some n =>
    cases n with
    | directory children => exact iff_of_false (Option.some_ne_none _) fun h => Bool.false_ne_true h.1.symm
    | file old => exact iff_of_true rfl ⟨rfl, h.hasPlace hk⟩

end

end TreeShell.Tree
