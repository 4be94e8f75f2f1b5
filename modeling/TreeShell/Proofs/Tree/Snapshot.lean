/-
  TreeShell.Proofs.Tree.Snapshot — a tree and its snapshot.

  Trees that hold the same nodes, in whatever order (`Alike`), have the same snapshot and
  give the same answers, and calls keep them so: a creation looks nodes up, and never at
  their order (`Alike.perform`, `Alike.after`). The snapshot holds the nodes of the tree by
  code point of their keys, in which a directory precedes what is in it (`lt_child`). What
  is read back from it is a tree with these nodes (`ofPairs_toJson`).

  Main statement: the tree that is read back from a snapshot is not told from the original
  by any lookup, call or report, now or after any calls (`ofPairs_snapshot`).
-/

import Mathlib.Data.Char
import Mathlib.Data.List.Lex
import TreeShell.Proofs.Path.Normal
import TreeShell.Proofs.Tree.Built
import TreeShell.Proofs.Wire
import TreeShell.Tree.Schema

namespace TreeShell

/-! ## The order of keys -/

namespace Text

theorem le_iff {a b : Text} : le a b = true ↔ a ≤ b := by
  rw [le_iff_lt_or_eq]
  induction a generalizing b with
  | nil =>
    cases b with
    | nil => exact iff_of_true rfl (.inr rfl)
    | cons d t => exact iff_of_true rfl (.inl .nil)
  | cons c s ih =>
    cases b with
    | nil => exact iff_of_false Bool.false_ne_true nofun
    | cons d t =>
      have hlt : c.toNat < d.toNat ↔ c < d := Iff.rfl
      have heq : c.toNat = d.toNat ↔ c = d := Char.toNat_inj
      rw [List.cons_lt_cons_iff, List.cons.injEq, or_assoc, ← and_or_left, ← ih, ← hlt, ← heq]
      simp [le]

end Text

namespace Path

theorem prefix_child {dir : Text} (hd : IsNormal dir) (name : Text) : dir <+: child dir name := by
  by_cases hroot : dir = root
  · rw [hroot]
    exact ⟨name, rfl⟩
  · unfold child
    rw [stem_of_ne_root hd hroot]
    exact List.prefix_append dir _

theorem lt_child {dir name : Text} (hd : IsNormal dir) (hn : IsName name) : dir < child dir name :=
  lt_of_le_of_ne (not_lt.mp (prefix_child hd name).le) (child_ne_self hd hn).symm

/-- No normalized key of the list has its parent behind it. -/
def ParentsFirst (keys : List Text) : Prop :=
  ∀ before key after, keys = before ++ key :: after → IsNormal key →
    ∀ parent ∈ (split key).1, parent ∈ keys → parent ∈ before

theorem parentsFirst_of_ascending {keys : List Text} (h : keys.Pairwise (· < ·)) : ParentsFirst keys := by
  rintro before key after rfl hkey parent hparent hmem
  obtain ⟨hnormal, hleaf, hchild⟩ := hkey.eq_child_leaf hparent
  have hlt : parent < key := by
    rw [hchild]
    exact lt_child hnormal hleaf
  obtain ⟨-, hbehind, -⟩ := List.pairwise_append.mp h
  rcases List.mem_append.mp hmem with hbefore | hmem
  · exact hbefore
  · rcases List.mem_cons.mp hmem with rfl | hafter
    · exact absurd hlt (lt_irrefl parent)
    · exact absurd ((List.pairwise_cons.mp hbehind).1 parent hafter) hlt.asymm

end Path

/-! ## Maps by their entries -/

namespace OrderedMap

variable {α β : Type} [DecidableEq α]

theorem entries_insert_fresh {m : OrderedMap α β} {k : α} (h : k ∉ m.keys) (v : β) :
    (m.insert k v).entries = m.entries ++ [(k, v)] := by
  show put k v m.entries = _
  have hk : k ∉ m.entries.map Prod.fst := h
  generalize m.entries = l at hk
  induction l with
  | nil => rfl
  | cons e rest ih =>
    obtain ⟨k', v'⟩ := e
    rw [List.map_cons, List.mem_cons, not_or] at hk
    rw [put, if_neg (Ne.symm hk.1), ih hk.2]
    rfl

theorem entries_foldl_insert {m : OrderedMap α β} {pairs : List (α × β)} (h : (m.keys ++ pairs.map Prod.fst).Nodup) :
    (pairs.foldl (fun m p => m.insert p.1 p.2) m).entries = m.entries ++ pairs := by
  induction pairs generalizing m with
  | nil => exact (List.append_nil _).symm
  | cons p pairs ih =>
    have hfresh : p.1 ∉ m.keys := fun hmem => (List.nodup_append.mp h).2.2 p.1 hmem p.1 List.mem_cons_self rfl
    have hrest : ((m.insert p.1 p.2).keys ++ pairs.map Prod.fst).Nodup := by
      rw [keys_insert, if_neg hfresh, List.append_assoc]
      exact h
    rw [List.foldl_cons, ih hrest, entries_insert_fresh hfresh, List.append_assoc, List.singleton_append]

/-- Without a key twice nothing is replaced. -/
theorem entries_ofList {pairs : List (α × β)} (h : (pairs.map Prod.fst).Nodup) : (ofList pairs).entries = pairs :=
  entries_foldl_insert h

/-- Maps that give the same values have the same entries, and the other way round. -/
theorem get?_eq_iff_perm {m n : OrderedMap α β} : (∀ k, m.get? k = n.get? k) ↔ m.entries.Perm n.entries := by
  rw [List.perm_ext_iff_of_nodup (.of_map _ m.distinct) (.of_map _ n.distinct)]
  constructor
  · rintro h ⟨k, v⟩
    rw [← get?_eq_some_iff, ← get?_eq_some_iff, h]
  · intro h k
    refine Option.ext fun v => ?_
    rw [get?_eq_some_iff, get?_eq_some_iff, h]

end OrderedMap

open Schema

theorem Node.read_toJson (node : Node) : Node.read node.toJson = .valid node := by
  cases node with
  | directory children =>
    show Checked.under _ (Node.directory <$> fieldD _ "children" (list text) []) = _
    rw [fieldD_of_get? rfl (list_texts children)]
    rfl
  | file content => rfl

namespace Tree

open TreeShell.Path

/-! ## Calls on alike trees -/

/-- Both operations succeed, or fail with one error, and leave alike trees. -/
structure Agree (r r' : Grown × Option PathError) : Prop where
  alike : Alike r.1.tree r'.1.tree
  error : r.2 = r'.2

section

variable {t u : Tree} (h : Alike t u)

include h

theorem Alike.put (key : Text) (node : Node) : Alike (t.put key node) (u.put key node) := by
  intro k
  rw [get?_put, get?_put, h]

theorem Alike.attach (key : Text) (node : Node) : Agree (t.attach key node) (u.attach key node) := by
  unfold Tree.attach
  rcases split key with ⟨_ | parent, leaf⟩
  · exact ⟨h, rfl⟩
  · simp only [h parent]
    cases u.nodes.get? parent with
    | none => exact ⟨h, rfl⟩
    | some above =>
      cases above with
      | directory children => exact ⟨(h.put key node).put parent _, rfl⟩
      | file content => exact ⟨h, rfl⟩

theorem Alike.contains (key : Text) : t.nodes.contains key = u.nodes.contains key := congrArg Option.isSome (h key)

theorem Alike.createDirectory (path : Text) : Agree (t.createDirectory path) (u.createDirectory path) := by
  unfold Tree.createDirectory
  simp only [h.contains]
  split
  · exact ⟨h, rfl⟩
  · exact h.attach _ _

theorem Alike.createFile (path content : Text) : Agree (t.createFile path content) (u.createFile path content) := by
  unfold Tree.createFile
  simp only [h (normalize path)]
  cases u.nodes.get? (normalize path) with
  | none => exact h.attach _ _
  | some node =>
    cases node with
    | directory children => exact ⟨h, rfl⟩
    | file old => exact ⟨h.put _ _, rfl⟩

/-- On the way down the same directories are missing. -/
theorem Alike.ensureBelow (above : Text) (names : List Text) :
    Agree (t.ensureBelow above names) (u.ensureBelow above names) := by
  induction names generalizing t u above with
  | nil => exact ⟨h, rfl⟩
  | cons name names ih =>
    unfold Tree.ensureBelow
    simp only [h (above ++ '/' :: name)]
    cases u.nodes.get? (above ++ '/' :: name) with
    | some node =>
      cases node with
      | directory children => exact ih h _
      | file content => exact ⟨h, rfl⟩
    | none =>
      obtain ⟨hgrown, herror⟩ := h.attach (above ++ '/' :: name) (.directory [])
      generalize t.attach (above ++ '/' :: name) (.directory []) = r at hgrown herror ⊢
      generalize u.attach (above ++ '/' :: name) (.directory []) = r' at hgrown herror ⊢
      obtain ⟨grown, error⟩ := r
      obtain ⟨grown', error'⟩ := r'
      obtain rfl : error = error' := herror
      cases error with
      | some e => exact ⟨hgrown, rfl⟩
      | none =>
        obtain ⟨hfurther, herror⟩ := ih hgrown (above ++ '/' :: name)
        exact ⟨hfurther, herror⟩

theorem Alike.answer (c : Call) : Agree (t.answer c) (u.answer c) := by
  cases c with
  | createDirectory path => exact h.createDirectory path
  | createFile path content => exact h.createFile path content
  | ensureDirectory path => exact h.ensureBelow [] (segments path)

theorem Alike.perform (c : Call) :
    Alike (t.perform c).1 (u.perform c).1 ∧ (t.perform c).2 = (u.perform c).2 :=
  ⟨(h.answer c).alike, (h.answer c).error⟩

theorem Alike.after (calls : List Call) : Alike (t.after calls) (u.after calls) := by
  induction calls generalizing t u with
  | nil => exact h
  | cons c calls ih => exact ih (h.perform c).1

/-! ## Reports on alike trees -/

theorem Alike.isDirectoryAt (key : Text) : t.isDirectoryAt key = u.isDirectoryAt key := by
  unfold Tree.isDirectoryAt
  rw [h]

theorem Alike.list (path : Text) : t.list path = u.list path := by
  unfold Tree.list
  simp only [h (normalize path), h.isDirectoryAt]

theorem Alike.read (path : Text) : t.read path = u.read path := by
  unfold Tree.read
  simp only [h (normalize path)]

theorem Alike.nodeProblems (key : Text) (node : Node) : t.nodeProblems key node = u.nodeProblems key node := by
  have hparent : t.parentProblems key = u.parentProblems key := by
    unfold parentProblems
    simp only [h _]
  have hchildren : t.childProblems key node = u.childProblems key node := by
    unfold childProblems
    simp only [h.contains]
  unfold Tree.nodeProblems
  rw [hparent, hchildren]

theorem Alike.entries : t.nodes.entries.Perm u.nodes.entries := OrderedMap.get?_eq_iff_perm.mp h

theorem Alike.problems : t.problems.Perm u.problems := by
  have hroot : t.rootProblems = u.rootProblems := by
    unfold rootProblems
    rw [h.isDirectoryAt]
  unfold Tree.problems
  simp only [hroot, h.nodeProblems]
  exact (h.entries.flatMap_right _).append_left _

theorem Alike.summary : t.summary = u.summary := by
  unfold Tree.summary OrderedMap.size
  rw [h.entries.countP_eq, h.entries.length_eq]

end

/-! ## The snapshot -/

theorem snapshot_perm (t : Tree) : t.snapshot.Perm t.nodes.entries := List.mergeSort_perm _ _

theorem nodup_snapshot (t : Tree) : (t.snapshot.map Prod.fst).Nodup :=
  (t.snapshot_perm.map Prod.fst).nodup_iff.mpr t.nodes.distinct

theorem snapshot_ascending (t : Tree) : t.snapshot.Pairwise fun a b => a.1 < b.1 := by
  have htrans (a b c : Text × Node) (hab : Text.le a.1 b.1 = true) (hbc : Text.le b.1 c.1 = true) :
      Text.le a.1 c.1 = true := Text.le_iff.mpr ((Text.le_iff.mp hab).trans (Text.le_iff.mp hbc))
  have htotal (a b : Text × Node) : (Text.le a.1 b.1 || Text.le b.1 a.1) = true := by
    rw [Bool.or_eq_true, Text.le_iff, Text.le_iff]
    exact le_total a.1 b.1
  have hsorted : t.snapshot.Pairwise fun a b => Text.le a.1 b.1 = true := List.pairwise_mergeSort htrans htotal _
  have hdistinct : t.snapshot.Pairwise fun a b => a.1 ≠ b.1 := List.pairwise_map.mp t.nodup_snapshot
  exact (hsorted.and hdistinct).imp fun h => lt_of_le_of_ne (Text.le_iff.mp h.1) h.2

theorem Alike.snapshot {t u : Tree} (h : Alike t u) : t.snapshot = u.snapshot := by
  have hperm : t.snapshot.Perm u.snapshot := t.snapshot_perm.trans (h.entries.trans u.snapshot_perm.symm)
  refine hperm.eq_of_pairwise (fun a b _ _ hab hba => ?_) t.snapshot_ascending u.snapshot_ascending
  exact absurd hba hab.asymm

theorem ofPairs_toJson {pairs : List (Text × Node)} (h : (pairs.map Prod.fst).Nodup) :
    ofPairs (pairs.map fun e => (e.1, e.2.toJson)) = .valid ⟨OrderedMap.ofList pairs⟩ := by
  have hkeys : (pairs.map fun e => (e.1, e.2.toJson)).map Prod.fst = pairs.map Prod.fst := by
    rw [List.map_map]
    rfl
  unfold ofPairs
  rw [OrderedMap.entries_ofList (by rwa [hkeys]), entries_map Node.read_toJson]
  rfl

/-- No lookup, call or report tells the trees apart. -/
structure Indistinct (t u : Tree) : Prop where
  node : ∀ path, t.node? path = u.node? path
  list : ∀ path, t.list path = u.list path
  read : ∀ path, t.read path = u.read path
  error : ∀ c : Call, (t.perform c).2 = (u.perform c).2
  snapshot : t.snapshot = u.snapshot
  summary : t.summary = u.summary
  problems : t.problems.Perm u.problems

theorem Alike.indistinct {t u : Tree} (h : Alike t u) : Indistinct t u where
  node path := h (normalize path)
  list := h.list
  read := h.read
  error c := (h.perform c).2
  snapshot := h.snapshot
  summary := h.summary
  problems := h.problems

/-- On any map of nodes: the snapshot has every node once, the keys ascending by code point,
    and so no parent behind its child. It is read back as a tree that differs from the
    original in nothing that lookups, creations and reports tell, now and after whatever
    calls are made on both, those that fail included; only the problems may come in another
    order. -/
theorem ofPairs_snapshot (t : Tree) :
    t.snapshot.Perm t.nodes.entries ∧ (t.snapshot.map Prod.fst).Pairwise (· < ·) ∧
      ParentsFirst (t.snapshot.map Prod.fst) ∧
      ∃ u, ofPairs (t.snapshot.map fun e => (e.1, e.2.toJson)) = .valid u ∧
        ∀ calls, Indistinct (u.after calls) (t.after calls) := by
  have hascending : (t.snapshot.map Prod.fst).Pairwise (· < ·) := List.pairwise_map.mpr t.snapshot_ascending
  have halike : Alike ⟨OrderedMap.ofList t.snapshot⟩ t := by
    refine OrderedMap.get?_eq_iff_perm.mpr ?_
    rw [OrderedMap.entries_ofList t.nodup_snapshot]
    exact t.snapshot_perm
  exact ⟨t.snapshot_perm, hascending, parentsFirst_of_ascending hascending, _, ofPairs_toJson t.nodup_snapshot,
    fun calls => (halike.after calls).indistinct⟩

/-- A blank comes before the slash, so a directory need not be followed by what is in it. -/
example : (⟨OrderedMap.ofList [("/a/b", .file "x"), ("/a b", .file ""), ("/a", .directory ["b"])]⟩ : Tree).snapshot =
    [("/a".toList, .directory ["b".toList]), ("/a b".toList, .file []), ("/a/b".toList, .file ['x'])] := by
  cbv

end Tree

end TreeShell
