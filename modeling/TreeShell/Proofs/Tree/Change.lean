/-
  TreeShell.Proofs.Tree.Change — what the operations can do to a tree.

  A tree is changed in two ways only: a new node without children is hung below an
  existing directory, which gets its name unless it lists it already (`Hung`), or an
  existing file gets new content (`Change`). Every call is a sequence of such changes, whatever
  tree it is made on and whether or not it raises an error (`after_changes`), so what
  each change keeps, every sequence of calls keeps (`Changes.keeps`). One that makes a single
  node makes no change where it fails (`createDirectory_failed`, `createFile_failed`).
-/

import Mathlib.Logic.Relation
import TreeShell.Proofs.Path.Child
import TreeShell.Tree

namespace TreeShell

def Node.children : Node → List Text
  | .directory children => children
  | .file _ => []

namespace Tree

open TreeShell.Path

theorem get?_bare (key : Text) : bare.nodes.get? key = if root = key then some (.directory []) else none := by
  simp [bare, OrderedMap.get?, OrderedMap.empty, OrderedMap.insert, OrderedMap.put, OrderedMap.find]

theorem isDirectoryAt_iff {t : Tree} {key : Text} :
    t.isDirectoryAt key = true ↔ ∃ children, t.nodes.get? key = some (.directory children) := by
  unfold isDirectoryAt
  split <;> simp_all

theorem list_of_directory {t : Tree} {key : Text} {children : List Text} (hk : IsNormal key)
    (h : t.nodes.get? key = some (.directory children)) :
    t.list key = .ok (children.map fun name => (name, t.isDirectoryAt (child key name))) := by
  have hnormal : normalize key = key := hk
  unfold list
  simp only [hnormal, h]

/-! ## Changes -/

/-- Hangs `node` at `name` below the directory at `dir`, which has these children. -/
def hang (t : Tree) (dir name : Text) (children : List Text) (node : Node) : Tree :=
  ⟨(t.nodes.insert (child dir name) node).insert dir
    (.directory (if children.contains name then children else children ++ [name]))⟩

inductive Change (t : Tree) : Tree → Prop
  | hang (dir name : Text) (children : List Text) (node : Node) : IsNormal dir → IsName name →
      t.nodes.get? dir = some (.directory children) → t.nodes.get? (child dir name) = none →
      node.children = [] → Change t (t.hang dir name children node)
  | write (key old content : Text) : IsNormal key → t.nodes.get? key = some (.file old) →
      Change t (t.put key (.file content))

abbrev Changes : Tree → Tree → Prop := Relation.ReflTransGen Change

theorem Changes.keeps {P : Tree → Prop} (hP : ∀ {t t' : Tree}, P t → Change t t' → P t') {t t' : Tree}
    (h : Changes t t') (ht : P t) : P t' := by
  induction h with
  | refl => exact ht
  | tail _ hc ih => exact hP ih hc

section Hang

variable {t : Tree} {dir name : Text} {children : List Text} {node : Node}

theorem get?_hang (key : Text) :
    (t.hang dir name children node).nodes.get? key =
      if dir = key then some (.directory (if children.contains name then children else children ++ [name]))
      else if child dir name = key then some node else t.nodes.get? key := by
  simp [hang]

theorem keys_hang (hdir : t.nodes.get? dir = some (.directory children))
    (hfresh : t.nodes.get? (child dir name) = none) :
    (t.hang dir name children node).nodes.keys = t.nodes.keys ++ [child dir name] := by
  have hd : dir ∈ t.nodes.keys := OrderedMap.mem_keys_of_get? hdir
  have hc : child dir name ∉ t.nodes.keys := (t.nodes.get?_eq_none_iff _).mp hfresh
  unfold hang
  simp only [OrderedMap.keys_insert, hc, if_false, List.mem_append, hd, true_or, if_true]

end Hang

theorem keys_put {t : Tree} {key : Text} {old node : Node} (h : t.nodes.get? key = some old) :
    (t.put key node).nodes.keys = t.nodes.keys := by
  have hk : key ∈ t.nodes.keys := OrderedMap.mem_keys_of_get? h
  simp [put, OrderedMap.keys_insert, hk]

theorem get?_put (t : Tree) (key : Text) (node : Node) (k : Text) :
    (t.put key node).nodes.get? k = if key = k then some node else t.nodes.get? k := by
  simp [put]

section Kept

variable {t t' : Tree} (h : Change t t')

include h

/-- A directory stays one, and names are only added behind those it has. -/
theorem Change.directory {key : Text} {children : List Text} (hk : t.nodes.get? key = some (.directory children)) :
    ∃ more, t'.nodes.get? key = some (.directory more) ∧ children <+: more := by
  cases h with
  | hang dir name names node hd hn hdir hfresh hbare =>
    rw [get?_hang]
    by_cases e : dir = key
    · rw [if_pos e]
      rw [← e, hdir] at hk; cases hk
      refine ⟨_, rfl, ?_⟩
      split
      · exact List.prefix_refl _
      · exact List.prefix_append _ _
    · have hne : child dir name ≠ key := by
        intro e'
        rw [e', hk] at hfresh; cases hfresh
      rw [if_neg e, if_neg hne]
      exact ⟨children, hk, List.prefix_refl _⟩
  | write path old content _ hold =>
    rw [get?_put]
    have hne : path ≠ key := by
      intro e
      rw [e, hk] at hold; cases hold
    rw [if_neg hne]
    exact ⟨children, hk, List.prefix_refl _⟩

theorem Change.isDirectoryAt {key : Text} (hk : t.isDirectoryAt key = true) : t'.isDirectoryAt key = true := by
  rw [isDirectoryAt_iff] at hk ⊢
  obtain ⟨children, hc⟩ := hk
  obtain ⟨more, hm, -⟩ := h.directory hc
  exact ⟨more, hm⟩

/-- A file stays one, whatever it then holds. -/
theorem Change.file {key content : Text} (hk : t.nodes.get? key = some (.file content)) :
    ∃ content', t'.nodes.get? key = some (.file content') := by
  cases h with
  | hang dir name names node hd hn hdir hfresh hbare =>
    have hd' : dir ≠ key := by
      intro e
      rw [e, hk] at hdir; cases hdir
    have hne : child dir name ≠ key := by
      intro e
      rw [e, hk] at hfresh; cases hfresh
    rw [get?_hang, if_neg hd', if_neg hne]
    exact ⟨content, hk⟩
  | write path old new _ hold =>
    rw [get?_put]
    split
    · exact ⟨new, rfl⟩
    · exact ⟨content, hk⟩

/-- Keys are only added behind those there are. -/
theorem Change.keys : t.nodes.keys <+: t'.nodes.keys := by
  cases h with
  | hang dir name names node hd hn hdir hfresh hbare =>
    rw [keys_hang hdir hfresh]
    exact List.prefix_append _ _
  | write path old content _ hold => simp only [keys_put hold, List.prefix_refl]

/-- A new key is listed by the directory it hangs below. -/
theorem Change.mem_keys_cases {key : Text} (hk : key ∈ t'.nodes.keys) :
    key ∈ t.nodes.keys ∨ ∃ dir name children, IsNormal dir ∧ IsName name ∧ key = child dir name ∧
      t'.nodes.get? dir = some (.directory children) ∧ name ∈ children := by
  cases h with
  | hang dir name names node hd hn hdir hfresh hbare =>
    rw [keys_hang hdir hfresh] at hk
    rcases List.mem_append.mp hk with hk | hk
    · exact Or.inl hk
    · right
      refine ⟨dir, name, _, hd, hn, List.mem_singleton.mp hk, by rw [get?_hang, if_pos rfl], ?_⟩
      split
      · rename_i hc; exact List.contains_iff_mem.mp hc
      · simp
  | write path old content _ hold =>
    rw [keys_put hold] at hk
    exact Or.inl hk

/-- The children of a directory are those it had, none, or those it had and a new name. -/
theorem Change.children_cases {key : Text} {children : List Text}
    (hk : t'.nodes.get? key = some (.directory children)) :
    t.nodes.get? key = some (.directory children) ∨ children = [] ∨
      ∃ name old, IsName name ∧ t.nodes.get? key = some (.directory old) ∧
        t.nodes.get? (child key name) = none ∧ child key name ∈ t'.nodes.keys ∧
        children = if old.contains name then old else old ++ [name] := by
  cases h with
  | hang dir name names node hd hn hdir hfresh hbare =>
    rw [get?_hang] at hk
    by_cases e : dir = key
    · subst e
      rw [if_pos rfl] at hk; cases hk
      refine Or.inr (Or.inr ⟨name, names, hn, hdir, hfresh, ?_, rfl⟩)
      rw [keys_hang hdir hfresh]; simp
    · rw [if_neg e] at hk
      split at hk
      · cases hk
        exact Or.inr (Or.inl hbare)
      · exact Or.inl hk
  | write path old content _ hold =>
    rw [get?_put] at hk
    split at hk
    · cases hk
    · exact Or.inl hk

end Kept

theorem Changes.isDirectoryAt {t t' : Tree} (h : Changes t t') {key : Text} (hk : t.isDirectoryAt key = true) :
    t'.isDirectoryAt key = true := by
  have hP : ∀ {u u' : Tree}, u.isDirectoryAt key = true → Change u u' → u'.isDirectoryAt key = true :=
    fun hu hc => hc.isDirectoryAt hu
  exact h.keeps hP hk

/-! ## New nodes -/

/-- The tree with `node` hung at `key`, where there was nothing. -/
inductive Hung (t : Tree) (key : Text) (node : Node) : Tree → Prop
  | below (dir name : Text) (children : List Text) : IsNormal dir → IsName name → key = child dir name →
      t.nodes.get? dir = some (.directory children) → t.nodes.get? key = none →
      Hung t key node (t.hang dir name children node)

section

variable {t u : Tree} {key : Text} {node : Node} (h : t.Hung key node u)

include h

theorem Hung.change (hbare : node.children = []) : Change t u := by
  cases h with
  | below dir name children hd hn hkey hdir hfresh =>
    exact .hang dir name children node hd hn hdir (hkey ▸ hfresh) hbare

theorem Hung.get?_self : u.nodes.get? key = some node := by
  cases h with
  | below dir name children hd hn hkey hdir hfresh =>
    have hne : dir ≠ key := hkey ▸ Ne.symm (child_ne_self hd hn)
    rw [get?_hang, if_neg hne, if_pos hkey.symm]

/-- A file that is there afterwards was there, or is the one that was hung. -/
theorem Hung.file_cases {k text : Text} (hfile : u.nodes.get? k = some (.file text)) :
    t.nodes.get? k = some (.file text) ∨ node = .file text := by
  cases h with
  | below dir name children hd hn hkey hdir hfresh =>
    rw [get?_hang] at hfile
    split at hfile
    · cases hfile
    · split at hfile
      · exact .inr (Option.some.inj hfile)
      · exact .inl hfile

end

/-! ## Operations as changes -/

theorem attach_root (t : Tree) (node : Node) : t.attach root node = (⟨t, []⟩, some ⟨root, .isRoot⟩) := by
  simp [attach, split_root]

theorem attach_child (t : Tree) {dir name : Text} (hd : IsNormal dir) (hn : IsName name) (node : Node) :
    t.attach (child dir name) node =
      match t.nodes.get? dir with
      | some (.directory children) => (⟨t.hang dir name children node, [⟨node.kind, child dir name⟩]⟩, none)
      | _ => (⟨t, []⟩, some ⟨child dir name, .parentNotADirectory dir⟩) := by
  unfold attach
  rw [split_child hd hn]
  rfl

theorem attach_hung {t : Tree} {key : Text} {node : Node} {grown : Grown} (hk : IsNormal key)
    (hfresh : t.nodes.get? key = none) (h : t.attach key node = (grown, none)) : t.Hung key node grown.tree := by
  rcases hk.cases_child with rfl | ⟨dir, name, hd, hn, rfl⟩
  · rw [attach_root] at h; cases h
  · rw [attach_child t hd hn] at h
    split at h
    · rename_i children hdir
      cases h
      exact .below dir name children hd hn rfl hdir hfresh
    · cases h

theorem createDirectory_hung {t : Tree} {path : Text} {grown : Grown} (h : t.createDirectory path = (grown, none)) :
    t.Hung (normalize path) (.directory []) grown.tree := by
  unfold createDirectory at h
  simp only at h
  split at h
  · cases h
  · rename_i hc
    have hfresh := (t.nodes.contains_eq_false_iff _).mp (by simpa using hc)
    exact attach_hung (isNormal_normalize path) hfresh h

/-- A file is made where nothing is, or an existing one is written over. -/
theorem createFile_hung_or_put {t : Tree} {path content : Text} {grown : Grown}
    (h : t.createFile path content = (grown, none)) :
    t.Hung (normalize path) (.file content) grown.tree ∨
      ∃ old, t.nodes.get? (normalize path) = some (.file old) ∧
        grown.tree = t.put (normalize path) (.file content) := by
  unfold createFile at h
  simp only at h
  split at h
  · cases h
  · rename_i old hold
    cases h
    exact .inr ⟨old, hold, rfl⟩
  · rename_i hfresh
    exact .inl (attach_hung (isNormal_normalize path) hfresh h)

theorem createDirectory_change {t : Tree} {path : Text} {grown : Grown}
    (h : t.createDirectory path = (grown, none)) : Change t grown.tree :=
  (createDirectory_hung h).change rfl

theorem createFile_change {t : Tree} {path content : Text} {grown : Grown}
    (h : t.createFile path content = (grown, none)) : Change t grown.tree := by
  rcases createFile_hung_or_put h with hhung | ⟨old, hold, hput⟩
  · exact hhung.change rfl
  · rw [hput]
    exact .write _ old content (isNormal_normalize path) hold

/-! ### Failures

An operation that makes one node looks at everything that it can fail for before it changes
anything, so the tree that comes with its error is the one that it was given. -/

section

variable {t : Tree} {grown : Grown} {e : PathError}

theorem attach_failed {key : Text} {node : Node} (h : t.attach key node = (grown, some e)) : grown = ⟨t, []⟩ := by
  unfold attach at h
  split at h
  · cases h; rfl
  · split at h
    · cases h
    · cases h; rfl

theorem createDirectory_failed {path : Text} (h : t.createDirectory path = (grown, some e)) : grown = ⟨t, []⟩ := by
  unfold createDirectory at h
  simp only at h
  split at h
  · cases h; rfl
  · exact attach_failed h

/-- What writes over a file cannot fail any more. -/
theorem createFile_failed {path content : Text} (h : t.createFile path content = (grown, some e)) :
    grown = ⟨t, []⟩ := by
  unfold createFile at h
  simp only at h
  split at h
  · cases h; rfl
  · cases h
  · exact attach_failed h

end

section Create

variable {t : Tree} {dir name : Text} {children : List Text} (hd : IsNormal dir) (hn : IsName name)
  (hdir : t.nodes.get? dir = some (.directory children)) (hfresh : t.nodes.get? (child dir name) = none)

include hd hn hdir hfresh

theorem createDirectory_child :
    t.createDirectory (child dir name) =
      (⟨t.hang dir name children (.directory []), [⟨.directory, child dir name⟩]⟩, none) := by
  have hnormal : normalize (child dir name) = child dir name := isNormal_child hd hn
  have hc := (t.nodes.contains_eq_false_iff _).mpr hfresh
  unfold createDirectory
  simp only [hnormal, hc, attach_child t hd hn, hdir]
  rfl

theorem createFile_child (content : Text) :
    t.createFile (child dir name) content =
      (⟨t.hang dir name children (.file content), [⟨.file, child dir name⟩]⟩, none) := by
  have hnormal : normalize (child dir name) = child dir name := isNormal_child hd hn
  unfold createFile
  simp only [hnormal, hfresh, attach_child t hd hn, hdir]
  rfl

end Create

/-! ### The way down -/

section Down

variable {t : Tree} {dir name : Text} {names : List Text}

theorem ensureBelow_cons (hn : IsName name) :
    t.ensureBelow (stem dir) (name :: names) =
      match t.nodes.get? (child dir name) with
      | some (.directory _) => t.ensureBelow (stem (child dir name)) names
      | some (.file _) => (⟨t, []⟩, some ⟨child dir name, .notADirectory⟩)
      | none =>
        match t.attach (child dir name) (.directory []) with
        | (grown, some e) => (grown, some e)
        | (grown, none) =>
          let below := grown.tree.ensureBelow (stem (child dir name)) names
          (⟨below.1.tree, grown.created ++ below.1.created⟩, below.2) := by
  rw [stem_child hn]
  rfl

theorem ensureBelow_directory (hn : IsName name) (h : t.isDirectoryAt (child dir name) = true) :
    t.ensureBelow (stem dir) (name :: names) = t.ensureBelow (stem (child dir name)) names := by
  obtain ⟨children, hc⟩ := isDirectoryAt_iff.mp h
  rw [ensureBelow_cons hn, hc]

theorem ensureBelow_file {content : Text} (hn : IsName name) (h : t.nodes.get? (child dir name) = some (.file content)) :
    t.ensureBelow (stem dir) (name :: names) = (⟨t, []⟩, some ⟨child dir name, .notADirectory⟩) := by
  rw [ensureBelow_cons hn, h]

theorem ensureBelow_missing {children : List Text} (hd : IsNormal dir) (hn : IsName name)
    (hdir : t.nodes.get? dir = some (.directory children)) (hfresh : t.nodes.get? (child dir name) = none) :
    let below := (t.hang dir name children (.directory [])).ensureBelow (stem (child dir name)) names
    t.ensureBelow (stem dir) (name :: names) =
      (⟨below.1.tree, ⟨.directory, child dir name⟩ :: below.1.created⟩, below.2) := by
  rw [ensureBelow_cons hn, hfresh, attach_child t hd hn, hdir]
  rfl

end Down

theorem ensureBelow_changes {names : List Text} (t : Tree) {dir : Text} (hd : IsNormal dir)
    (hn : ∀ n ∈ names, IsName n) : Changes t (t.ensureBelow (stem dir) names).1.tree := by
  induction names generalizing t dir with
  | nil => exact .refl
  | cons name names ih =>
    obtain ⟨hname, hrest⟩ := List.forall_mem_cons.mp hn
    have hkey : IsNormal (child dir name) := isNormal_child hd hname
    rw [ensureBelow_cons hname]
    split
    · exact ih t hkey hrest
    · exact .refl
    · rename_i hfresh
      split
      · rename_i grown e hfailed
        rw [attach_failed hfailed]
      · rename_i grown hg
        exact .head ((attach_hung hkey hfresh hg).change rfl) (ih grown.tree hkey hrest)

theorem ensureDirectory_changes (t : Tree) (path : Text) : Changes t (t.ensureDirectory path).1.tree := by
  have h := ensureBelow_changes t isNormal_root fun _ (hn : _ ∈ segments path) => isName_of_mem_segments hn
  rwa [stem_root] at h

theorem ensureAll_changes (t : Tree) (paths : List Text) : Changes t (t.ensureAll paths).1.tree := by
  induction paths generalizing t with
  | nil => exact .refl
  | cons path paths ih =>
    have h := ensureDirectory_changes t path
    unfold ensureAll
    split
    · rename_i grown e he
      rw [he] at h
      exact h
    · rename_i grown he
      rw [he] at h
      exact h.trans (ih grown.tree)

/-! ## Calls -/

inductive Call where
  | createDirectory (path : Text)
  | createFile (path content : Text)
  | ensureDirectory (path : Text)

def answer (t : Tree) : Call → Grown × Option PathError
  | .createDirectory path => t.createDirectory path
  | .createFile path content => t.createFile path content
  | .ensureDirectory path => t.ensureDirectory path

/-- The tree that a call leaves, and the error it raises. -/
def perform (t : Tree) (c : Call) : Tree × Option PathError := ((t.answer c).1.tree, (t.answer c).2)

/-- The tree after the calls, those that raise errors included. -/
def after (t : Tree) (calls : List Call) : Tree := calls.foldl (fun t c => (t.perform c).1) t

theorem changes_of_answer {t : Tree} {r : Grown × Option PathError}
    (hmade : ∀ grown, r = (grown, none) → Change t grown.tree)
    (hfailed : ∀ grown e, r = (grown, some e) → grown = ⟨t, []⟩) : Changes t r.1.tree := by
  obtain ⟨grown, error⟩ := r
  cases error with
  | none => exact .single (hmade grown rfl)
  | some e =>
    rw [hfailed grown e rfl]

theorem perform_changes (t : Tree) (c : Call) : Changes t (t.perform c).1 := by
  cases c with
  | createDirectory path =>
    exact changes_of_answer (fun _ => createDirectory_change) fun _ _ => createDirectory_failed
  | createFile path content => exact changes_of_answer (fun _ => createFile_change) fun _ _ => createFile_failed
  | ensureDirectory path => exact ensureDirectory_changes t path

theorem after_changes (t : Tree) (calls : List Call) : Changes t (t.after calls) := by
  induction calls generalizing t with
  | nil => exact .refl
  | cons c calls ih => exact (perform_changes t c).trans (ih _)

end Tree

end TreeShell
