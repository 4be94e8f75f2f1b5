/-
  TreeShell.Proofs.Tree.Built — the report of problems knows exactly the trees that can
  be built.

  A tree is built from the bare one by creations that all succeed. What is built has no
  problems, and a tree without problems can be built, key for key and child for child
  (`problems_eq_nil_iff_built`). The order of creation is found backwards: in a
  consistent tree with more than a root, the last name of the directory above a deepest
  node belongs to a node without children (`Consistent.exists_last`); it is taken off
  (`prune`), and made last.
-/

import Mathlib.Data.Finset.Max
import TreeShell.Proofs.Tree.Consistent

namespace TreeShell.Tree

open TreeShell.Path

/-- Made from the bare tree by creations none of which fails. -/
inductive Built : Tree → Prop
  | bare : Built bare
  | createDirectory {t : Tree} {path : Text} {grown : Grown} : Built t →
      t.createDirectory path = (grown, none) → Built grown.tree
  | createFile {t : Tree} {path content : Text} {grown : Grown} : Built t →
      t.createFile path content = (grown, none) → Built grown.tree

theorem Built.consistent {t : Tree} (h : Built t) : t.Consistent := by
  induction h with
  | bare => exact .bare
  | createDirectory _ hg ih => exact ih.change (createDirectory_change hg)
  | createFile _ hg ih => exact ih.change (createFile_change hg)

/-- The trees hold the same nodes, whatever the order of their keys. -/
def Alike (t u : Tree) : Prop := ∀ key, t.nodes.get? key = u.nodes.get? key

/-! ## Taking off a last child -/

/-- The tree without the child `name` of `dir`, which keeps the other children. -/
def prune (t : Tree) (dir name : Text) (others : List Text) : Tree :=
  ⟨(t.nodes.erase (child dir name)).insert dir (.directory others)⟩

theorem get?_prune (t : Tree) (dir name : Text) (others : List Text) (key : Text) :
    (t.prune dir name others).nodes.get? key =
      if dir = key then some (.directory others)
      else if child dir name = key then none else t.nodes.get? key := by
  simp [prune]

/-- A directory of the pruned tree is `dir` or as it was. -/
theorem directory_prune_cases {t : Tree} {dir name d : Text} {others children : List Text}
    (hc : (t.prune dir name others).nodes.get? d = some (.directory children)) :
    (d = dir ∧ children = others) ∨ (d ≠ dir ∧ t.nodes.get? d = some (.directory children)) := by
  rw [get?_prune] at hc
  by_cases e : dir = d
  · rw [if_pos e] at hc; cases hc
    exact Or.inl ⟨e.symm, rfl⟩
  · rw [if_neg e] at hc
    split at hc
    · cases hc
    · exact Or.inr ⟨Ne.symm e, hc⟩

/-- `last` ends the names of the directory `dir`, behind `others`, and the node of that
    name has no children. -/
structure LastChild (t : Tree) (dir : Text) (others : List Text) (last : Text) (node : Node) : Prop where
  dir_eq : t.nodes.get? dir = some (.directory (others ++ [last]))
  node_eq : t.nodes.get? (child dir last) = some node
  bare : node.children = []

section

variable {t : Tree} (h : t.Consistent)

include h

/-- With a node below the root there is one at the greatest depth. -/
theorem Consistent.exists_deepest {key : Text} (hk : key ∈ t.nodes.keys) (hroot : key ≠ Path.root) :
    ∃ dir name, IsNormal dir ∧ IsName name ∧ child dir name ∈ t.nodes.keys ∧
      ∀ k ∈ t.nodes.keys, (segments k).length ≤ (segments (child dir name)).length := by
  obtain ⟨deepest, hmem, hmax⟩ := t.nodes.keys.toFinset.exists_max_image (fun k => (segments k).length)
    ⟨key, List.mem_toFinset.mpr hk⟩
  rw [List.mem_toFinset] at hmem
  have hmax : ∀ k ∈ t.nodes.keys, (segments k).length ≤ (segments deepest).length := fun k hk =>
    hmax k (List.mem_toFinset.mpr hk)
  rcases (h.normal deepest hmem).cases_child with rfl | ⟨dir, name, hd, hn, rfl⟩
  · rcases (h.normal key hk).cases_child with rfl | ⟨dir, name, hd, hn, rfl⟩
    · exact absurd rfl hroot
    · have hle := hmax _ hk
      have hzero : (segments Path.root).length = 0 := by decide
      rw [segments_child hd hn, List.length_append, hzero] at hle
      simp at hle
  · exact ⟨dir, name, hd, hn, hmem, hmax⟩

/-- The last child above a deepest node has no children. -/
theorem Consistent.exists_last {key : Text} (hk : key ∈ t.nodes.keys) (hroot : key ≠ Path.root) :
    ∃ dir others last node, t.LastChild dir others last node := by
  obtain ⟨dir, name, hd, hn, hmem, hmax⟩ := h.exists_deepest hk hroot
  obtain ⟨children, hdir, hm⟩ := h.listed dir name hd hn hmem
  have hne : children ≠ [] := List.ne_nil_of_mem hm
  have hsplit : children = children.dropLast ++ [children.getLast hne] :=
    (List.dropLast_concat_getLast hne).symm
  have hlast := h.backed dir children hdir _ (List.getLast_mem hne)
  have hname : IsName (children.getLast hne) := (h.wellNamed dir children hdir).2 _ (List.getLast_mem hne)
  obtain ⟨node, hnode⟩ := (t.nodes.mem_keys_iff _).mp hlast
  refine ⟨dir, children.dropLast, children.getLast hne, node, ⟨by rw [hdir, ← hsplit], hnode, ?_⟩⟩
  -- a child of the last child would be deeper than the deepest node
  cases node with
  | file content => rfl
  | directory below =>
    refine List.eq_nil_iff_forall_not_mem.mpr fun n hb => ?_
    have hle := hmax _ (h.backed _ below hnode n hb)
    have hnn : IsName n := (h.wellNamed _ below hnode).2 n hb
    rw [segments_child (isNormal_child hd hname) hnn, segments_child hd hname, segments_child hd hn] at hle
    simp at hle

variable {dir last : Text} {others : List Text} {node : Node} (hl : t.LastChild dir others last node)

include hl

theorem Consistent.lastChild_names : IsNormal dir ∧ IsName last ∧ last ∉ others ∧ others.Nodup ∧
    ∀ n ∈ others, IsName n := by
  obtain ⟨hnodup, hnames⟩ := h.wellNamed dir _ hl.dir_eq
  obtain ⟨hothers, -, hdisj⟩ := List.nodup_append.mp hnodup
  refine ⟨h.isNormal hl.dir_eq, hnames last (by simp), fun hm => ?_, hothers,
    fun n hn => hnames n (List.mem_append_left _ hn)⟩
  exact hdisj last hm last (by simp) rfl

theorem Consistent.mem_keys_prune (key : Text) :
    key ∈ (t.prune dir last others).nodes.keys ↔ key ∈ t.nodes.keys ∧ child dir last ≠ key := by
  obtain ⟨hd, hn, -⟩ := h.lastChild_names hl
  rw [OrderedMap.mem_keys_iff, OrderedMap.mem_keys_iff]
  by_cases e : dir = key
  · subst e
    simp [get?_prune, hl.dir_eq, child_ne_self hd hn]
  · by_cases e' : child dir last = key
    · simp [get?_prune, e, e']
    · simp [get?_prune, e, e']

/-- What is left is listed where it was: the child taken off listed nothing. -/
theorem Consistent.listed_prune {d n : Text} (hdn : IsNormal d) (hnn : IsName n)
    (hk : child d n ∈ (t.prune dir last others).nodes.keys) :
    ∃ children, (t.prune dir last others).nodes.get? d = some (.directory children) ∧ n ∈ children := by
  obtain ⟨hk, hne⟩ := (h.mem_keys_prune hl _).mp hk
  obtain ⟨children, hc, hm⟩ := h.listed d n hdn hnn hk
  by_cases e : dir = d
  · subst e
    rw [hl.dir_eq] at hc; cases hc
    refine ⟨others, by rw [get?_prune, if_pos rfl], ?_⟩
    rcases List.mem_append.mp hm with hm | hm
    · exact hm
    · exact absurd (by rw [List.mem_singleton.mp hm]) hne
  · have hchild : child dir last ≠ d := by
      intro e'
      rw [← e', hl.node_eq] at hc; cases hc
      have := hl.bare
      rw [Node.children] at this
      rw [this] at hm; cases hm
    exact ⟨children, by rw [get?_prune, if_neg e, if_neg hchild, hc], hm⟩

theorem Consistent.prune : (t.prune dir last others).Consistent := by
  obtain ⟨hd, hn, hnot, hnodup, hnames⟩ := h.lastChild_names hl
  have hkeys := h.mem_keys_prune hl
  refine ⟨⟨?_, fun key hk => h.normal key ((hkeys key).mp hk).1, fun d n hdn hnn => h.listed_prune hl hdn hnn,
    fun d children hc n hm => ?_⟩, fun d children hc => ?_⟩
  · rw [isDirectoryAt_iff]
    by_cases e : dir = Path.root
    · exact ⟨others, by rw [get?_prune, if_pos e]⟩
    · obtain ⟨children, hc⟩ := isDirectoryAt_iff.mp h.root
      exact ⟨children, by rw [get?_prune, if_neg e, if_neg (child_ne_root hd hn), hc]⟩
  · rcases directory_prune_cases hc with ⟨rfl, rfl⟩ | ⟨hne, hc⟩
    · refine (hkeys _).mpr ⟨h.backed _ _ hl.dir_eq n (List.mem_append_left _ hm), fun e => ?_⟩
      exact hnot ((child_inj hd hn hd (hnames n hm) e).2 ▸ hm)
    · refine (hkeys _).mpr ⟨h.backed d children hc n hm, fun e => ?_⟩
      exact hne (child_inj hd hn (h.isNormal hc) ((h.wellNamed d children hc).2 n hm) e).1.symm
  · rcases directory_prune_cases hc with ⟨rfl, rfl⟩ | ⟨-, hc⟩
    · exact ⟨hnodup, hnames⟩
    · exact h.wellNamed d children hc

theorem Consistent.length_prune : (t.prune dir last others).nodes.keys.length < t.nodes.keys.length := by
  have hsub : (t.prune dir last others).nodes.keys ⊆ t.nodes.keys.erase (child dir last) := by
    intro key hk
    obtain ⟨hk, hne⟩ := (h.mem_keys_prune hl key).mp hk
    exact (List.mem_erase_of_ne (Ne.symm hne)).mpr hk
  have hmem : child dir last ∈ t.nodes.keys := OrderedMap.mem_keys_of_get? hl.node_eq
  have hle := ((OrderedMap.nodup_keys _).subperm hsub).length_le
  rw [List.length_erase_of_mem hmem] at hle
  have := List.length_pos_of_mem hmem
  omega

theorem Consistent.hang_alike {u : Tree} (hu : Alike u (t.prune dir last others)) :
    Alike (u.hang dir last others node) t := by
  obtain ⟨-, -, hnot, -⟩ := h.lastChild_names hl
  intro key
  rw [get?_hang]
  by_cases e : dir = key
  · rw [if_pos e, if_neg (by simpa using hnot), ← e, hl.dir_eq]
  · rw [if_neg e]
    by_cases e' : child dir last = key
    · rw [if_pos e', ← e', hl.node_eq]
    · rw [if_neg e', hu key, get?_prune, if_neg e, if_neg e']

end

/-! ## Building -/

/-- A consistent tree without nodes below the root is the bare one. -/
theorem Consistent.bare_alike {t : Tree} (h : t.Consistent) (hroot : ∀ key ∈ t.nodes.keys, key = Path.root) :
    Alike Tree.bare t := by
  obtain ⟨children, hc⟩ := isDirectoryAt_iff.mp h.root
  have hnil : children = [] := by
    refine List.eq_nil_iff_forall_not_mem.mpr fun name hm => ?_
    have hn : IsName name := (h.wellNamed _ children hc).2 name hm
    exact child_ne_root isNormal_root hn (hroot _ (h.backed _ children hc name hm))
  intro key
  rw [get?_bare]
  by_cases e : Path.root = key
  · rw [if_pos e, ← e, hc, hnil]
  · rw [if_neg e]
    cases hk : t.nodes.get? key with
    | none => rfl
    | some node => exact absurd (hroot key (OrderedMap.mem_keys_of_get? hk)).symm e

theorem Consistent.exists_built {t : Tree} (h : t.Consistent) : ∃ built, Built built ∧ Alike built t := by
  suffices ∀ n (t : Tree), t.nodes.keys.length = n → t.Consistent → ∃ built, Built built ∧ Alike built t from
    this _ t rfl h
  intro n
  induction n using Nat.strongRecOn with
  | ind n ih =>
  intro t hn h
  by_cases hroot : ∀ key ∈ t.nodes.keys, key = Path.root
  · exact ⟨.bare, .bare, h.bare_alike hroot⟩
  · push Not at hroot
    obtain ⟨key, hk, hne⟩ := hroot
    obtain ⟨dir, others, last, node, hl⟩ := h.exists_last hk hne
    have hlt := h.length_prune hl
    obtain ⟨u, hu, halike⟩ := ih _ (by omega) _ rfl (h.prune hl)
    obtain ⟨hd, hname, -⟩ := h.lastChild_names hl
    have hdir : u.nodes.get? dir = some (.directory others) := by rw [halike, get?_prune, if_pos rfl]
    have hfresh : u.nodes.get? (child dir last) = none := by
      rw [halike, get?_prune, if_neg (Ne.symm (child_ne_self hd hname)), if_pos rfl]
    have hhang := h.hang_alike hl halike
    cases node with
    | file content => exact ⟨_, hu.createFile (createFile_child hd hname hdir hfresh content), hhang⟩
    | directory below =>
      have hbelow : below = [] := hl.bare
      subst hbelow
      exact ⟨_, hu.createDirectory (createDirectory_child hd hname hdir hfresh), hhang⟩

/-- Where the directories list names, and none twice, the report of problems is empty
    exactly for the trees that creations build from the bare one, the order of the keys
    aside. -/
theorem problems_eq_nil_iff_built (t : Tree) (hnames : t.WellNamed) :
    t.problems = [] ↔ ∃ built, Built built ∧ ∀ key, built.nodes.get? key = t.nodes.get? key := by
  rw [problems_eq_nil_iff]
  constructor
  · intro hs
    exact (Consistent.mk hs hnames).exists_built
  · rintro ⟨built, hb, halike⟩
    exact hb.consistent.toSound.congr halike

/-- The keys in an order in which no creation could have made them: the file first, the
    root last. -/
theorem problems_eq_nil_iff_built_reversed :
    let pairs : List (Text × Node) :=
      [("/a/b", .file "x"), ("/c", .directory []), ("/a", .directory ["b"]), ("/", .directory ["c", "a"])]
    let t : Tree := ⟨OrderedMap.ofList pairs⟩
    t.WellNamed ∧ (t.problems = [] ↔ ∃ built, Built built ∧ ∀ key, built.nodes.get? key = t.nodes.get? key) ∧
      ∃ built, Built built ∧ ∀ key, built.nodes.get? key = t.nodes.get? key := by
  intro pairs t
  have hw : t.WellNamed := by
    intro dir children h
    have hentries : t.nodes.entries = pairs := by decide
    rw [OrderedMap.get?_eq_some_iff, hentries] at h
    simp only [pairs, List.mem_cons, Prod.mk.injEq, reduceCtorEq, Node.directory.injEq, and_false, false_or,
      List.not_mem_nil, or_false] at h
    rcases h with ⟨-, rfl⟩ | ⟨-, rfl⟩ | ⟨-, rfl⟩ <;> simp [IsName]
  have hiff := problems_eq_nil_iff_built t hw
  exact ⟨hw, hiff, hiff.mp (by decide)⟩

end TreeShell.Tree
