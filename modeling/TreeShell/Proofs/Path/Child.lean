/-
  TreeShell.Proofs.Path.Child — where a normalized path hangs.

  A normalized path is the root or the child of exactly one normalized path under
  exactly one name: `split_child` reads both back, `IsNormal.cases_child` finds them,
  `child_inj` says there are no others. The trees need nothing else of the text of a
  path.
-/

import TreeShell.Path

namespace TreeShell.Path

open Text

/-- The path is its own normal form. -/
def IsNormal (path : Text) : Prop := normalize path = path

theorem isNormal_root : IsNormal root := by unfold IsNormal; decide

theorem isNormal_normalize (path : Text) : IsNormal (normalize path) := normalize_normalize path

theorem isNormal_resolve (target cwd : Text) : IsNormal (resolve target cwd) := by
  unfold resolve
  split <;> exact isNormal_normalize _

theorem normalize_resolve (target cwd : Text) : normalize (resolve target cwd) = resolve target cwd :=
  isNormal_resolve target cwd

theorem isNormal_ofSegments {names : List Text} (h : ∀ name ∈ names, IsName name) :
    IsNormal (ofSegments names) := by
  unfold IsNormal normalize
  rw [segments_ofSegments h]

/-! ## Trails: the names, each behind a slash -/

/-- The normal form of the names, but empty where there are none. -/
def trail (names : List Text) : Text := names.flatMap ('/' :: ·)

theorem trail_append (names : List Text) (name : Text) :
    trail (names ++ [name]) = trail names ++ '/' :: name := by
  simp [trail]

theorem trail_eq_nil {names : List Text} (h : trail names = []) : names = [] := by
  cases names with
  | nil => rfl
  | cons name rest => simp [trail] at h

theorem ofSegments_eq_trail {names : List Text} (h : names ≠ []) : ofSegments names = trail names := by
  induction names with
  | nil => exact absurd rfl h
  | cons name rest ih =>
    cases rest with
    | nil => simp [ofSegments, trail, join]
    | cons next tail =>
      have := ih (by simp)
      simp only [ofSegments, trail, join_cons_cons, List.flatMap_cons] at this ⊢
      rw [← this]
      simp

theorem ofSegments_append (names : List Text) (name : Text) :
    ofSegments (names ++ [name]) = trail names ++ '/' :: name := by
  rw [ofSegments_eq_trail (by simp), trail_append]

theorem ofSegments_eq_ite (names : List Text) :
    ofSegments names = if trail names = [] then root else trail names := by
  split
  · rename_i h
    rw [trail_eq_nil h]; rfl
  · rename_i h
    exact ofSegments_eq_trail fun e => h (by rw [e]; rfl)

/-! ## The child of a path -/

theorem stem_append_name {name : Text} (h : IsName name) (above : Text) :
    stem (above ++ '/' :: name) = above ++ '/' :: name := by
  obtain ⟨hne, hs⟩ := h
  obtain ⟨init, last, rfl⟩ : ∃ init last, name = init ++ [last] :=
    ⟨name.dropLast, name.getLast hne, (List.dropLast_concat_getLast hne).symm⟩
  have hl : last ≠ '/' := by
    intro e
    exact hs (by simp [e])
  unfold stem dropEndWhile
  simp [hl]

theorem stem_child {name : Text} (h : IsName name) (dir : Text) : stem (child dir name) = child dir name :=
  stem_append_name h (stem dir)

theorem stem_root : stem root = [] := by decide

theorem stem_ofSegments {names : List Text} (h : ∀ name ∈ names, IsName name) :
    stem (ofSegments names) = trail names := by
  rcases List.eq_nil_or_concat names with rfl | ⟨init, last, rfl⟩
  · exact stem_root
  · rw [List.concat_eq_append] at h ⊢
    rw [ofSegments_append, trail_append]
    exact stem_append_name (h last (by simp)) _

theorem child_ofSegments {names : List Text} (h : ∀ name ∈ names, IsName name) (name : Text) :
    child (ofSegments names) name = ofSegments (names ++ [name]) := by
  unfold child
  rw [stem_ofSegments h, ofSegments_append]

/-- Cutting at the last slash, whatever stands above it. -/
theorem split_append_name {name : Text} (h : IsName name) (above : Text) :
    split (above ++ '/' :: name) = (some (if above = [] then root else above), name) := by
  obtain ⟨hne, hs⟩ := h
  have hroot : above ++ '/' :: name ≠ root := by
    intro e
    cases above with
    | nil => exact hne (by simpa [root] using e)
    | cons c cs => simp [root] at e
  have hall : ∀ c ∈ name.reverse, (c != '/') = true := by
    intro c hc
    have : c ≠ '/' := fun e => hs (by simpa [e] using hc)
    simpa using this
  unfold split
  rw [if_neg hroot]
  simp only [List.reverse_append, List.reverse_cons, List.append_assoc, List.singleton_append]
  rw [List.takeWhile_append_of_pos hall, List.dropWhile_append_of_pos hall]
  simp

section Normal

variable {dir name : Text}

/-- A normalized path is made of its segments. -/
theorem IsNormal.eq_ofSegments (h : IsNormal dir) : dir = ofSegments (segments dir) := h.symm

theorem child_eq_ofSegments (hd : IsNormal dir) (name : Text) :
    child dir name = ofSegments (segments dir ++ [name]) := by
  have hs : ∀ n ∈ segments dir, IsName n := fun _ => isName_of_mem_segments
  have := child_ofSegments hs name
  rwa [← hd.eq_ofSegments] at this

theorem segments_child (hd : IsNormal dir) (hn : IsName name) :
    segments (child dir name) = segments dir ++ [name] := by
  rw [child_eq_ofSegments hd]
  apply segments_ofSegments
  intro n h
  rcases List.mem_append.mp h with h | h
  · exact isName_of_mem_segments h
  · rw [List.mem_singleton.mp h]; exact hn

theorem isNormal_child (hd : IsNormal dir) (hn : IsName name) : IsNormal (child dir name) := by
  unfold IsNormal normalize
  rw [segments_child hd hn, child_eq_ofSegments hd]

theorem split_child (hd : IsNormal dir) (hn : IsName name) : split (child dir name) = (some dir, name) := by
  rw [child_eq_ofSegments hd, ofSegments_append, split_append_name hn, ← ofSegments_eq_ite, ← hd.eq_ofSegments]

theorem child_ne_root (hd : IsNormal dir) (hn : IsName name) : child dir name ≠ root := by
  intro e
  have := split_child hd hn
  rw [e] at this
  simp [split] at this

theorem child_ne_self (hd : IsNormal dir) (hn : IsName name) : child dir name ≠ dir := by
  intro e
  have := congrArg List.length (segments_child hd hn)
  rw [e] at this
  simp at this

theorem child_inj {dir' name' : Text} (hd : IsNormal dir) (hn : IsName name) (hd' : IsNormal dir')
    (hn' : IsName name') (h : child dir name = child dir' name') : dir = dir' ∧ name = name' := by
  have := split_child hd hn
  rw [h, split_child hd' hn'] at this
  simp only [Prod.mk.injEq, Option.some.injEq] at this
  exact ⟨this.1.symm, this.2.symm⟩

/-- A normalized path is the root or a child of a normalized path. -/
theorem IsNormal.cases_child {path : Text} (h : IsNormal path) :
    path = root ∨ ∃ dir name, IsNormal dir ∧ IsName name ∧ path = child dir name := by
  rcases List.eq_nil_or_concat (segments path) with hs | ⟨init, last, hs⟩
  · left
    rw [h.eq_ofSegments, hs]; rfl
  · right
    rw [List.concat_eq_append] at hs
    have hname : ∀ n ∈ init ++ [last], IsName n := fun n hn => isName_of_mem_segments (hs ▸ hn)
    have hinit : ∀ n ∈ init, IsName n := fun n hn => hname n (List.mem_append_left _ hn)
    refine ⟨ofSegments init, last, isNormal_ofSegments hinit, hname last (by simp), ?_⟩
    rw [child_ofSegments hinit, ← hs]
    exact h.eq_ofSegments

/-- Going down from a normalized path, name by name. -/
theorem foldl_child {names : List Text} (hd : IsNormal dir) (hn : ∀ n ∈ names, IsName n) :
    names.foldl child dir = ofSegments (segments dir ++ names) := by
  induction names generalizing dir with
  | nil => rw [List.append_nil]; exact hd.eq_ofSegments
  | cons name names ih =>
    obtain ⟨hname, hrest⟩ := List.forall_mem_cons.mp hn
    rw [List.foldl_cons, ih (isNormal_child hd hname) hrest, segments_child hd hname, List.append_assoc,
      List.singleton_append]

theorem foldl_child_root (path : Text) : (segments path).foldl child root = normalize path := by
  have hn : ∀ n ∈ segments path, IsName n := fun _ => isName_of_mem_segments
  rw [foldl_child isNormal_root hn]
  rfl

/-- An absolute path that is normalized is its own target. -/
theorem resolve_of_isNormal {target : Text} (h : IsNormal target) (cwd : Text) : resolve target cwd = target := by
  have ha : isAbsolute target = true := by rw [h.eq_ofSegments]; rfl
  unfold resolve
  rw [if_pos ha]
  exact h

theorem split_root : split root = (none, []) := by decide

/-- A normalized path with a parent is that parent's child. -/
theorem IsNormal.eq_child {path parent leaf : Text} (h : IsNormal path) (hs : split path = (some parent, leaf)) :
    IsNormal parent ∧ IsName leaf ∧ path = child parent leaf := by
  rcases h.cases_child with rfl | ⟨dir, name, hd, hn, rfl⟩
  · rw [split_root] at hs
    simp at hs
  · rw [split_child hd hn] at hs
    simp only [Prod.mk.injEq, Option.some.injEq] at hs
    obtain ⟨rfl, rfl⟩ := hs
    exact ⟨hd, hn, rfl⟩

theorem IsNormal.eq_child_leaf {path parent : Text} (h : IsNormal path) (hp : (split path).1 = some parent) :
    IsNormal parent ∧ IsName (split path).2 ∧ path = child parent (split path).2 :=
  h.eq_child (Prod.ext hp rfl)

end Normal

end TreeShell.Path
