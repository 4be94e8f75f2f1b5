/-
  TreeShell.Proofs.Tree.Independence — creations that do not touch each other.

  Whether a node can be made, and what is wrong if not, shows in what stands at its key and
  at the key of its parent, file or directory (`error_congr`). What making it changes is its
  own key and the names of its parent (`get?_perform_self`, `get?_perform_elsewhere`), and the
  kind of no other node. That holds on any map of nodes.

  Main statement: of two creations, neither at the path of the other nor above it, each fails
  or succeeds alike before and after the other, and both orders leave the same nodes, but for
  the order of the names in a directory (`creations_commute`).
-/

import TreeShell.Proofs.Path.Normal
import TreeShell.Proofs.Tree.Change

namespace TreeShell

open TreeShell.Path

/-! ## Nodes but for the order of children -/

namespace Node

/-- The names with one more behind them, unless it is among them. -/
def listed (children : List Text) (name : Text) : List Text :=
  if children.contains name then children else children ++ [name]

/-- A file lists nothing. -/
def listing (name : Text) : Node → Node
  | .directory children => .directory (listed children name)
  | .file content => .file content

theorem kind_listing (name : Text) (node : Node) : (node.listing name).kind = node.kind := by
  cases node <;> rfl

inductive Shuffled : Node → Node → Prop
  | directory {children others : List Text} : children.Perm others → Shuffled (.directory children) (.directory others)
  | file (content : Text) : Shuffled (.file content) (.file content)

theorem Shuffled.refl (node : Node) : node.Shuffled node := by
  cases node with
  | directory children => exact .directory (List.Perm.refl children)
  | file content => exact .file content

theorem rel_refl (x : Option Node) : Option.Rel Shuffled x x := by
  cases x with
  | none => exact .none
  | some node => exact .some (.refl node)

theorem listed_perm_insert (children : List Text) (name : Text) :
    (listed children name).Perm (children.insert name) := by
  unfold listed List.insert
  by_cases h : name ∈ children
  · simp [h]
  · simp [h, List.perm_append_singleton]

theorem listed_perm_listed (children : List Text) (a b : Text) :
    (listed (listed children a) b).Perm (listed (listed children b) a) := by
  have hab : (listed (listed children a) b).Perm ((children.insert a).insert b) :=
    (listed_perm_insert _ b).trans ((listed_perm_insert children a).insert b)
  have hba : (listed (listed children b) a).Perm ((children.insert b).insert a) :=
    (listed_perm_insert _ a).trans ((listed_perm_insert children b).insert a)
  exact hab.trans ((List.perm_insert_swap b a children).trans hba.symm)

theorem shuffled_listing (node : Node) (a b : Text) :
    ((node.listing a).listing b).Shuffled ((node.listing b).listing a) := by
  cases node with
  | directory children => exact .directory (listed_perm_listed children a b)
  | file content => exact .file content

end Node

namespace Tree

/-- The trees have nodes at the same keys, of the same kinds and contents, and each directory
    lists the same names, in any order. -/
def Shuffled (t u : Tree) : Prop := ∀ key, Option.Rel Node.Shuffled (t.nodes.get? key) (u.nodes.get? key)

/-- The path and the node of a call that makes one. -/
def Call.makes : Call → Option (Text × Node)
  | .createDirectory path => some (path, .directory [])
  | .createFile path content => some (path, .file content)
  | .ensureDirectory _ => none

def kindAt (t : Tree) (key : Text) : Option Kind := (t.nodes.get? key).map Node.kind

/-! ## What decides on a creation -/

/-- What is wrong with hanging a node at the key, where there is none. -/
def obstacle (t : Tree) (key : Text) : Option PathError :=
  match (split key).1 with
  | none => some ⟨key, .isRoot⟩
  | some parent => if t.kindAt parent = some .directory then none else some ⟨key, .parentNotADirectory parent⟩

section

variable {t : Tree} {path : Text}

theorem attach_error (t : Tree) (key : Text) (node : Node) : (t.attach key node).2 = t.obstacle key := by
  unfold attach obstacle kindAt
  rcases split key with ⟨_ | parent, leaf⟩
  · rfl
  · simp only
    cases t.nodes.get? parent with
    | none => rfl
    | some above => cases above <;> rfl

theorem createDirectory_error :
    (t.perform (.createDirectory path)).2 =
      if (t.kindAt (normalize path)).isSome then some ⟨normalize path, .alreadyExists⟩
      else t.obstacle (normalize path) := by
  have hkind : (t.kindAt (normalize path)).isSome = t.nodes.contains (normalize path) := Option.isSome_map
  show (t.createDirectory path).2 = _
  unfold createDirectory
  rw [hkind, ← attach_error t _ (.directory [])]
  simp only
  split <;> rfl

theorem createFile_error {content : Text} :
    (t.perform (.createFile path content)).2 =
      match t.kindAt (normalize path) with
      | some .directory => some ⟨normalize path, .isADirectory⟩
      | some .file => none
      | none => t.obstacle (normalize path) := by
  show (t.createFile path content).2 = _
  unfold createFile kindAt
  simp only
  cases t.nodes.get? (normalize path) with
  | none => exact attach_error t _ _
  | some node => cases node <;> rfl

end

/-! ## What a creation changes -/

theorem Hung.fresh_elsewhere {t u : Tree} {key : Text} {node : Node} (h : t.Hung key node u) :
    t.nodes.get? key = none ∧ ∀ {k}, k ≠ key → u.nodes.get? k =
      if (split key).1 = some k then (t.nodes.get? k).map (Node.listing (split key).2) else t.nodes.get? k := by
  cases h with
  | below dir name children hd hn hkey hdir hfresh =>
    refine ⟨hfresh, fun {k} hk => ?_⟩
    have hnew : child dir name ≠ k := fun e => hk (e.symm.trans hkey.symm)
    rw [get?_hang, hkey, split_child hd hn]
    by_cases e : dir = k
    · subst e
      rw [if_pos rfl, if_pos rfl, hdir]
      rfl
    · rw [if_neg e, if_neg hnew, if_neg fun h => e (Option.some.inj h)]

section

variable {t u : Tree} {c : Call} {path : Text} {node : Node} (hc : c.makes = some (path, node))

include hc

/-- Only the kinds at the key and at the parent's key count. -/
theorem error_congr (hkey : t.kindAt (normalize path) = u.kindAt (normalize path))
    (hparent : ∀ parent, (split (normalize path)).1 = some parent → t.kindAt parent = u.kindAt parent) :
    (t.perform c).2 = (u.perform c).2 := by
  have hobstacle : t.obstacle (normalize path) = u.obstacle (normalize path) := by
    unfold obstacle
    cases h : (split (normalize path)).1 with
    | none => rfl
    | some parent => simp only [hparent parent h]
  cases c with
  | createDirectory p =>
    cases hc
    rw [createDirectory_error, createDirectory_error, hkey, hobstacle]
  | createFile p content =>
    cases hc
    rw [createFile_error, createFile_error, hkey, hobstacle]
  | ensureDirectory p => cases hc

theorem perform_cases :
    (∃ e, t.perform c = (t, some e)) ∨
      ((t.perform c).2 = none ∧
        (t.Hung (normalize path) node (t.perform c).1 ∨
          ∃ old, t.nodes.get? (normalize path) = some (.file old) ∧
            (t.perform c).1 = t.put (normalize path) node)) := by
  unfold perform
  cases c with
  | createDirectory p =>
    cases hc
    cases h : t.createDirectory path with
    | mk grown error =>
      have hanswer : t.answer (.createDirectory path) = (grown, error) := h
      rw [hanswer]
      cases error with
      | some e => exact .inl ⟨e, by rw [createDirectory_failed h]⟩
      | none => exact .inr ⟨rfl, .inl (createDirectory_hung h)⟩
  | createFile p content =>
    cases hc
    cases h : t.createFile path content with
    | mk grown error =>
      have hanswer : t.answer (.createFile path content) = (grown, error) := h
      rw [hanswer]
      cases error with
      | some e => exact .inl ⟨e, by rw [createFile_failed h]⟩
      | none => exact .inr ⟨rfl, createFile_hung_or_put h⟩
  | ensureDirectory p => cases hc

theorem get?_perform_self :
    (t.perform c).1.nodes.get? (normalize path) =
      if (t.perform c).2 = none then some node else t.nodes.get? (normalize path) := by
  rcases perform_cases (t := t) hc with ⟨e, he⟩ | ⟨hnone, hhung | ⟨old, -, hput⟩⟩
  · rw [he]; rfl
  · rw [if_pos hnone, hhung.get?_self]
  · rw [if_pos hnone, hput, get?_put, if_pos rfl]

/-- A new node is listed by its parent. All else stays. -/
theorem get?_perform_elsewhere {key : Text} (hkey : key ≠ normalize path) :
    (t.perform c).1.nodes.get? key =
      if (t.perform c).2 = none ∧ t.nodes.get? (normalize path) = none ∧ (split (normalize path)).1 = some key then
        (t.nodes.get? key).map (Node.listing (split (normalize path)).2)
      else t.nodes.get? key := by
  rcases perform_cases (t := t) hc with ⟨e, he⟩ | ⟨hnone, hhung | ⟨old, hold, hput⟩⟩
  · rw [he]; rfl
  · obtain ⟨hfresh, helsewhere⟩ := hhung.fresh_elsewhere
    rw [helsewhere hkey, hnone, hfresh]
    simp only [true_and]
  · rw [hput, get?_put, if_neg (Ne.symm hkey), if_neg]
    rintro ⟨-, hfresh, -⟩
    rw [hold] at hfresh
    cases hfresh

theorem kindAt_perform {key : Text} (hkey : key ≠ normalize path) : (t.perform c).1.kindAt key = t.kindAt key := by
  unfold kindAt
  rw [get?_perform_elsewhere hc hkey]
  split
  · rw [Option.map_map]
    exact congrArg (Option.map · _) (funext (Node.kind_listing _))
  · rfl

end

/-! ## Two creations -/

/-- Different paths, neither of which lies above the other. -/
structure Apart (p q : Text) : Prop where
  ne : normalize p ≠ normalize q
  not_below : ¬IsBelow p q
  not_above : ¬IsBelow q p

instance (p q : Text) : Decidable (Apart p q) :=
  decidable_of_iff (normalize p ≠ normalize q ∧ ¬IsBelow p q ∧ ¬IsBelow q p)
    ⟨fun ⟨hne, hbelow, habove⟩ => ⟨hne, hbelow, habove⟩, fun h => ⟨h.ne, h.not_below, h.not_above⟩⟩

theorem Apart.symm {p q : Text} (h : Apart p q) : Apart q p := ⟨h.ne.symm, h.not_above, h.not_below⟩

/-- Neither is the other's parent. -/
theorem Apart.parent_ne {p q : Text} (h : Apart p q) : (split (normalize q)).1 ≠ some (normalize p) := by
  intro hparent
  obtain ⟨hp, hleaf, hchild⟩ := (isNormal_normalize q).eq_child_leaf hparent
  refine h.not_below ⟨[(split (normalize q)).2], List.cons_ne_nil _ _, ?_⟩
  calc segments q = segments (normalize q) := (segments_normalize q).symm
    _ = segments (child (normalize p) (split (normalize q)).2) := congrArg segments hchild
    _ = segments (normalize p) ++ [(split (normalize q)).2] := segments_child hp hleaf
    _ = segments p ++ [(split (normalize q)).2] := by rw [segments_normalize]

section

variable {t : Tree} {a b : Call} {p q : Text} {n m : Node} (ha : a.makes = some (p, n)) (hb : b.makes = some (q, m))
  (h : Apart p q)

include ha hb h

theorem error_after : ((t.perform a).1.perform b).2 = (t.perform b).2 := by
  refine error_congr hb (kindAt_perform ha h.ne.symm) fun parent hparent => kindAt_perform ha ?_
  rintro rfl
  exact h.parent_ne hparent

omit hb in
theorem get?_after : (t.perform a).1.nodes.get? (normalize q) = t.nodes.get? (normalize q) := by
  rw [get?_perform_elsewhere ha h.ne.symm, if_neg fun hnew => h.symm.parent_ne hnew.2.2]

/-- At the path of the first nothing comes of the second. -/
theorem get?_both_self :
    ((t.perform a).1.perform b).1.nodes.get? (normalize p) =
      ((t.perform b).1.perform a).1.nodes.get? (normalize p) := by
  rw [get?_after hb h.symm, get?_perform_self ha, get?_perform_self ha, error_after hb ha h.symm, get?_after hb h.symm]

theorem shuffled_elsewhere {key : Text} (hp : key ≠ normalize p) (hq : key ≠ normalize q) :
    Option.Rel Node.Shuffled (((t.perform a).1.perform b).1.nodes.get? key)
      (((t.perform b).1.perform a).1.nodes.get? key) := by
  rw [get?_perform_elsewhere hb hq, get?_perform_elsewhere ha hp, get?_perform_elsewhere ha hp,
    get?_perform_elsewhere hb hq, error_after ha hb h, error_after hb ha h.symm, get?_after ha h, get?_after hb h.symm]
  -- the names are added one by one, and only where both are is there an order
  split
  · split
    · cases t.nodes.get? key with
      | none => exact .none
      | some node => exact .some (node.shuffled_listing _ _)
    · exact Node.rel_refl _
  · exact Node.rel_refl _

end

/-- On any map of nodes, for two calls that make one node each, at paths neither of which is
    the other or lies above it: whichever is made first, both fail or succeed as they do on
    their own, with the same errors, and the same nodes are there afterwards, but that a
    directory may list its children in another order. -/
theorem creations_commute (t : Tree) {a b : Call} {p q : Text} {n m : Node} (ha : a.makes = some (p, n))
    (hb : b.makes = some (q, m)) (h : Apart p q) :
    let ab := (t.perform a).1.perform b
    let ba := (t.perform b).1.perform a
    (t.perform a).2 = ba.2 ∧ ab.2 = (t.perform b).2 ∧ ab.1.Shuffled ba.1 := by
  intro ab ba
  refine ⟨(error_after hb ha h.symm).symm, error_after ha hb h, fun key => ?_⟩
  by_cases hp : key = normalize p
  · rw [hp, get?_both_self ha hb h]
    exact Node.rel_refl _
  · by_cases hq : key = normalize q
    · rw [hq, get?_both_self hb ha h.symm]
      exact Node.rel_refl _
    · exact shuffled_elsewhere ha hb h hp hq

/-- Two nodes in one directory: their order there is the order of the calls. -/
theorem creations_commute_siblings :
    let t := bare.after [.createDirectory "/d"]
    let ab := (t.perform (.createFile "/d/x" "1")).1.perform (.createDirectory "d//y/")
    let ba := (t.perform (.createDirectory "d//y/")).1.perform (.createFile "/d/x" "1")
    Apart "/d/x" "d//y/" ∧ (ab.2 = none ∧ ab.1.Shuffled ba.1) ∧
      ab.1.list "/d" = .ok [("x", false), ("y", true)] ∧ ba.1.list "/d" = .ok [("y", true), ("x", false)] := by
  intro t ab ba
  have h : Apart "/d/x" "d//y/" := by decide
  have ha : (Call.createFile "/d/x" "1").makes = some ("/d/x".toList, .file "1") := rfl
  have hb : (Call.createDirectory "d//y/").makes = some ("d//y/".toList, .directory []) := rfl
  obtain ⟨-, herror, hshuffled⟩ := creations_commute t ha hb h
  have hnone : (t.perform (.createDirectory "d//y/")).2 = none := by decide
  exact ⟨h, ⟨herror.trans hnone, hshuffled⟩, by rfl, by rfl⟩

end Tree

end TreeShell
