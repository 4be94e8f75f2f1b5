/-
  TreeShell.Proofs.Tree.Listing — the names that the directories list and the keys of
  the nodes are one account of the tree, kept twice.

  `Tree.walk` reads a directory's listing off the keys alone, in their order. In a
  consistent tree whose listings are in the order of the keys (`InOrder`), which every
  change keeps (`InOrder.change`), it is what `Tree.list` answers (`list_eq_walk`). The
  paths that the directories of a consistent tree list are the keys but the root, each
  once (`Consistent.perm_listedPaths`).
-/

import Mathlib.Algebra.GroupWithZero.Nat
import Mathlib.Data.List.Nodup
import TreeShell.Proofs.Tree.Consistent

namespace TreeShell.Tree

open TreeShell.Path

/-- The keys with this parent. -/
def keysBelow (t : Tree) (dir : Text) : List Text := t.nodes.keys.filter fun key => (split key).1 = some dir

/-- The listing of `dir` according to the keys. -/
def walk (t : Tree) (dir : Text) : List (Text × Bool) :=
  (t.keysBelow dir).map fun key => ((split key).2, t.isDirectoryAt key)

/-- Every directory lists the names of the nodes below it in the order of their keys. -/
def InOrder (t : Tree) : Prop :=
  ∀ dir children, t.nodes.get? dir = some (.directory children) →
    children = (t.keysBelow dir).map fun key => (split key).2

/-! ## The order is kept -/

section

variable {t t' : Tree}

theorem Sound.eq_child_of_mem_keysBelow (h : t.Sound) {dir key : Text} (hk : key ∈ t.keysBelow dir) :
    IsNormal dir ∧ IsName (split key).2 ∧ key = child dir (split key).2 := by
  obtain ⟨hmem, hs⟩ := List.mem_filter.mp hk
  exact (h.normal key hmem).eq_child_leaf (by simpa using hs)

/-- Nothing hangs below a missing node. -/
theorem Sound.keysBelow_eq_nil (h : t.Sound) {dir : Text} (hdir : t.nodes.get? dir = none) : t.keysBelow dir = [] := by
  rw [List.eq_nil_iff_forall_not_mem]
  intro key hk
  obtain ⟨hd, hn, e⟩ := h.eq_child_of_mem_keysBelow hk
  have hmem : child dir (split key).2 ∈ t.nodes.keys := e ▸ (List.mem_filter.mp hk).1
  obtain ⟨children, hc, -⟩ := h.listed dir _ hd hn hmem
  rw [hdir] at hc; cases hc

theorem keysBelow_hang {dir name : Text} {children : List Text} {node : Node} (hd : IsNormal dir) (hn : IsName name)
    (hdir : t.nodes.get? dir = some (.directory children)) (hfresh : t.nodes.get? (child dir name) = none)
    (other : Text) :
    (t.hang dir name children node).keysBelow other =
      t.keysBelow other ++ if dir = other then [child dir name] else [] := by
  unfold keysBelow
  rw [keys_hang hdir hfresh, List.filter_append]
  by_cases e : dir = other
  · subst e
    simp [split_child hd hn]
  · simp [split_child hd hn, e]

theorem InOrder.bare : bare.InOrder := by
  intro dir children h
  rw [get?_bare] at h
  split at h
  · rename_i e
    cases h
    rw [← e]; rfl
  · cases h

theorem InOrder.change (hs : t.Sound) (h : t.InOrder) (hc : Change t t') : t'.InOrder := by
  intro other children hother
  cases hc with
  | hang dir name names node hd hn hdir hfresh hbare =>
    rw [keysBelow_hang hd hn hdir hfresh, List.map_append]
    rw [get?_hang] at hother
    by_cases e : dir = other
    · subst e
      have hnot := hs.not_mem_of_fresh hdir hfresh
      rw [if_pos rfl, if_neg (by simpa using hnot)] at hother
      cases hother
      rw [if_pos rfl, ← h dir names hdir]
      simp [split_child hd hn]
    · rw [if_neg e] at hother ⊢
      split at hother
      · rename_i hc
        cases hother
        -- the new node is the directory itself: it has no children yet
        rw [← hc, hs.keysBelow_eq_nil hfresh]
        exact hbare
      · simpa using h other children hother
  | write path old content _ hold =>
    rw [get?_put] at hother
    unfold keysBelow
    rw [keys_put hold]
    split at hother
    · cases hother
    · exact h other children hother

/-- What every reachable tree is. -/
theorem Changes.consistent_inOrder (hc : Changes bare t) : t.Consistent ∧ t.InOrder :=
  hc.keeps (P := fun u => u.Consistent ∧ u.InOrder)
    (fun h hu => ⟨h.1.change hu, h.2.change h.1.toSound hu⟩) ⟨.bare, .bare⟩

end

/-! ## Listings and keys -/

theorem list_eq_walk {t : Tree} (hs : t.Sound) (ho : t.InOrder) {dir : Text} (hdir : t.isDirectoryAt dir = true) :
    t.list dir = .ok (t.walk dir) := by
  obtain ⟨children, hc⟩ := isDirectoryAt_iff.mp hdir
  unfold walk
  rw [list_of_directory (hs.isNormal hc) hc, ho dir children hc, List.map_map]
  congr 1
  apply List.map_congr_left
  intro key hk
  have e := (hs.eq_child_of_mem_keysBelow hk).2.2
  simp only [Function.comp_apply]
  rw [← e]

/-- The paths that the directories list. -/
def listedPaths (t : Tree) : List Text := t.nodes.entries.flatMap fun e => e.2.children.map (child e.1)

theorem mem_listedPaths {t : Tree} {path : Text} :
    path ∈ t.listedPaths ↔ ∃ dir children, t.nodes.get? dir = some (.directory children) ∧
      ∃ name ∈ children, child dir name = path := by
  unfold listedPaths
  rw [List.mem_flatMap]
  constructor
  · rintro ⟨⟨dir, node⟩, he, hp⟩
    rw [← OrderedMap.get?_eq_some_iff] at he
    obtain ⟨name, hn, e⟩ := List.mem_map.mp hp
    cases node with
    | directory children => exact ⟨dir, children, he, name, hn, e⟩
    | file content => cases hn
  · rintro ⟨dir, children, hdir, name, hn, e⟩
    rw [OrderedMap.get?_eq_some_iff] at hdir
    exact ⟨_, hdir, List.mem_map.mpr ⟨name, hn, e⟩⟩

theorem length_listedPaths (t : Tree) :
    t.listedPaths.length = (t.nodes.entries.map fun e => e.2.children.length).sum := by
  unfold listedPaths
  rw [List.length_flatMap]
  simp

section

variable {t : Tree} (h : t.Consistent)

include h

theorem Consistent.named {dir name : Text} {children : List Text}
    (hdir : t.nodes.get? dir = some (.directory children)) (hn : name ∈ children) : IsNormal dir ∧ IsName name :=
  ⟨h.isNormal hdir, (h.wellNamed dir children hdir).2 name hn⟩

theorem Consistent.nodup_listedPaths : t.listedPaths.Nodup := by
  have hnamed : ∀ e ∈ t.nodes.entries, ∀ name ∈ e.2.children, IsNormal e.1 ∧ IsName name := by
    rintro ⟨dir, node⟩ he name hn
    rw [← OrderedMap.get?_eq_some_iff] at he
    cases node with
    | directory children => exact h.named he hn
    | file content => cases hn
  unfold listedPaths
  rw [List.nodup_flatMap]
  constructor
  · rintro ⟨dir, node⟩ he
    cases node with
    | file content => exact List.nodup_nil
    | directory children =>
      have hdir := (OrderedMap.get?_eq_some_iff _ _ _).mpr he
      refine List.Nodup.map_on (fun a ha b hb e => ?_) (h.wellNamed dir children hdir).1
      obtain ⟨hd, hna⟩ := h.named hdir ha
      exact (child_inj hd hna hd (h.named hdir hb).2 e).2
  · -- two entries have different keys, and a path has one parent
    have hkeys : t.nodes.entries.Pairwise fun a b => a.1 ≠ b.1 := List.pairwise_map.mp t.nodes.distinct
    refine hkeys.imp_of_mem fun {a b} ha hb hne => ?_
    intro path hpa hpb
    obtain ⟨m, hm, rfl⟩ := List.mem_map.mp hpa
    obtain ⟨n, hn, e⟩ := List.mem_map.mp hpb
    obtain ⟨hda, hma⟩ := hnamed a ha m hm
    obtain ⟨hdb, hnb⟩ := hnamed b hb n hn
    exact hne (child_inj hda hma hdb hnb e.symm).1

/-- The root aside, the keys are the listed paths. -/
theorem Consistent.perm_listedPaths : (root :: t.listedPaths).Perm t.nodes.keys := by
  have hroot : root ∉ t.listedPaths := by
    intro hm
    obtain ⟨dir, children, hdir, name, hn, e⟩ := mem_listedPaths.mp hm
    obtain ⟨hd, hname⟩ := h.named hdir hn
    exact child_ne_root hd hname e
  rw [List.perm_ext_iff_of_nodup (List.nodup_cons.mpr ⟨hroot, h.nodup_listedPaths⟩) t.nodes.nodup_keys]
  intro key
  rw [List.mem_cons, mem_listedPaths]
  constructor
  · rintro (rfl | ⟨dir, children, hdir, name, hn, rfl⟩)
    · obtain ⟨children, hc⟩ := isDirectoryAt_iff.mp h.root
      exact OrderedMap.mem_keys_of_get? hc
    · exact h.backed dir children hdir name hn
  · intro hk
    rcases (h.normal key hk).cases_child with rfl | ⟨dir, name, hd, hn, rfl⟩
    · exact Or.inl rfl
    · obtain ⟨children, hdir, hm⟩ := h.listed dir name hd hn hk
      exact Or.inr ⟨dir, children, hdir, name, hm, rfl⟩

end

/-! ## Reachable trees -/

/-- After any calls on a seeded tree, those that raised errors included: every listing
    is the walk over the keys, every node but the root is listed once, by its parent,
    every listed name is a name and has a node, none is listed twice in a directory, and
    there is one node more than there are listed names. -/
theorem listings_follow_keys (directories : List Text) (calls : List Call) :
    let t := (seeded directories).after calls
    (∀ dir, t.isDirectoryAt dir = true → t.list dir = .ok (t.walk dir)) ∧
    (∀ key ∈ t.nodes.keys, key ≠ root → t.listedPaths.count key = 1 ∧
      ∃ parent leaf children, split key = (some parent, leaf) ∧
        t.nodes.get? parent = some (.directory children) ∧ leaf ∈ children) ∧
    (∀ dir children, t.nodes.get? dir = some (.directory children) →
      children.Nodup ∧ ∀ name ∈ children, name ≠ [] ∧ '/' ∉ name ∧ child dir name ∈ t.nodes.keys) ∧
    t.nodes.size = 1 + (t.nodes.entries.map fun e => e.2.children.length).sum := by
  intro t
  have hchanges : Changes bare t := (ensureAll_changes bare directories).trans (after_changes _ calls)
  obtain ⟨hc, ho⟩ := hchanges.consistent_inOrder
  have hperm := hc.perm_listedPaths
  refine ⟨fun dir hdir => list_eq_walk hc.toSound ho hdir, fun key hk hroot => ⟨?_, ?_⟩,
    fun dir children hdir => ?_, ?_⟩
  · have hmem : key ∈ root :: t.listedPaths := hperm.mem_iff.mpr hk
    exact List.count_eq_one_of_mem hc.nodup_listedPaths ((List.mem_cons.mp hmem).resolve_left hroot)
  · rcases (hc.normal key hk).cases_child with rfl | ⟨dir, name, hd, hn, rfl⟩
    · exact absurd rfl hroot
    · obtain ⟨children, hdir, hm⟩ := hc.listed dir name hd hn hk
      exact ⟨dir, name, children, split_child hd hn, hdir, hm⟩
  · obtain ⟨hnodup, hnames⟩ := hc.wellNamed dir children hdir
    exact ⟨hnodup, fun name hm => ⟨(hnames name hm).1, (hnames name hm).2, hc.backed dir children hdir name hm⟩⟩
  · rw [← t.nodes.length_keys, ← hperm.length_eq, List.length_cons, length_listedPaths, Nat.add_comm]

end TreeShell.Tree
