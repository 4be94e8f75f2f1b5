/-
  TreeShell.Proofs.Path.Canonical — one spelling and one parent for each path.

  Texts with the same segments have the same normal form, and no others have
  (`normalize_eq_normalize_iff`). Which texts are normal forms can be seen from the slashes
  alone (`isNormal_iff`), with the root on its own: no other ends in a slash. Whatever a
  target is resolved against, the result is one of them; so a name resolved in a normalized
  directory gives a normalized path, and the split takes exactly these apart again
  (`isChild_iff`).

  Main statement: `normal_form_by_names_and_parent`.
-/

import TreeShell.Proofs.Path.Normal

namespace TreeShell.Path

open Text

/-! ## The slashes of a normal form -/

/-- One slash in front, a name behind the last slash, no two slashes together. -/
structure IsCanonical (path : Text) : Prop where
  leading : path.head? = some '/'
  trailing : path.getLast? ≠ some '/'
  doubled : ¬['/', '/'] <:+: path

theorem isCanonical_slash_iff {t : Text} : IsCanonical ('/' :: t) ↔ IsNames t := by
  constructor
  · rintro ⟨-, htrailing, hdoubled⟩
    have hne : t ≠ [] := by
      rintro rfl
      exact htrailing rfl
    refine ⟨hne, fun h => hdoubled ?_, fun h => htrailing ?_, fun h => hdoubled ?_⟩
    · obtain ⟨rest, rfl⟩ := List.head?_eq_some_iff.mp h
      exact ⟨[], rest, rfl⟩
    · obtain ⟨init, rfl⟩ := List.getLast?_eq_some_iff.mp h
      exact List.getLast?_eq_some_iff.mpr ⟨'/' :: init, rfl⟩
    · exact h.trans (List.suffix_cons '/' t).isInfix
  · rintro ⟨hne, hleading, htrailing, hdoubled⟩
    refine ⟨rfl, fun h => htrailing ?_, fun h => ?_⟩
    · obtain ⟨c, rest, rfl⟩ := List.exists_cons_of_ne_nil hne
      rwa [List.getLast?_cons_cons] at h
    · -- Two slashes together are in front, where the second starts `t`, or inside `t`.
      rcases List.infix_cons_iff.mp h with hfront | hinside
      · obtain ⟨rest, hrest⟩ := hfront
        obtain rfl := (List.cons.inj hrest).2
        exact hleading rfl
      · exact hdoubled hinside

theorem isNormal_iff {path : Text} : IsNormal path ↔ path = root ∨ IsCanonical path := by
  constructor
  · intro h
    obtain ⟨t, rfl⟩ : ∃ t, path = '/' :: t := ⟨_, h.eq_ofSegments⟩
    rcases isNormal_slash_iff.mp h with rfl | hnames
    · exact .inl rfl
    · exact .inr (isCanonical_slash_iff.mpr hnames)
  · rintro (rfl | h)
    · exact isNormal_root
    · obtain ⟨t, rfl⟩ := List.head?_eq_some_iff.mp h.leading
      exact isNormal_slash_iff.mpr (.inr (isCanonical_slash_iff.mp h))

theorem normalize_eq_normalize_iff {p q : Text} : normalize p = normalize q ↔ segments p = segments q := by
  constructor
  · intro h
    rw [← segments_normalize p, h, segments_normalize q]
  · exact congrArg ofSegments

/-! ## Parent and leaf -/

/-- `path` is what `name` means in the directory `dir`. -/
structure IsChild (path dir name : Text) : Prop where
  dir_normal : IsNormal dir
  isName : IsName name
  resolves : resolve name dir = path

theorem isNames_of_isName {name : Text} (h : IsName name) : IsNames name := by
  rw [isNames_iff, splitOn_eq_self h.2]
  simpa using h.1.symm

section

variable {path dir name : Text}

theorem IsChild.eq_child (h : IsChild path dir name) : path = child dir name := by
  rw [← h.resolves]
  exact resolve_eq_child h.dir_normal (isNames_of_isName h.isName)

theorem IsChild.segments_eq (h : IsChild path dir name) : segments path = segments dir ++ [name] := by
  rw [h.eq_child]
  exact segments_child h.dir_normal h.isName

theorem IsChild.unique {dir' name' : Text} (h : IsChild path dir name) (h' : IsChild path dir' name') :
    dir' = dir ∧ name' = name := by
  have hsame : child dir' name' = child dir name := h'.eq_child.symm.trans h.eq_child
  exact child_inj h'.dir_normal h'.isName h.dir_normal h.isName hsame

theorem isChild_iff : IsChild path dir name ↔ IsNormal path ∧ split path = (some dir, name) := by
  constructor
  · intro h
    rw [h.eq_child]
    exact ⟨isNormal_child h.dir_normal h.isName, split_child h.dir_normal h.isName⟩
  · rintro ⟨hpath, hsplit⟩
    obtain ⟨hdir, hname, hchild⟩ := hpath.eq_child hsplit
    have hresolve := resolve_eq_child hdir (isNames_of_isName hname)
    exact ⟨hdir, hname, hresolve.trans hchild.symm⟩

theorem IsNormal.exists_split (h : IsNormal path) (hroot : path ≠ root) :
    ∃ dir name, split path = (some dir, name) := by
  rcases h.cases_child with rfl | ⟨dir, name, hdir, hname, rfl⟩
  · exact absurd rfl hroot
  · exact ⟨dir, name, split_child hdir hname⟩

end

/-- The normal forms are the root and the texts that start with a slash, end in none and
    have no two together. Normalizing gives one of them, and leaves it there; it joins the
    texts that have the same segments. Resolving a target gives one of them too. Each but
    the root is split into a normalized directory, which has its segments but the last, and
    that segment, a name that means the path in the directory; no other name in a normalized
    directory means it. -/
theorem normal_form_by_names_and_parent (p q target cwd : Text) :
    (normalize p = p ↔ p = root ∨ IsCanonical p) ∧
    normalize (normalize p) = normalize p ∧
    (normalize p = normalize q ↔ segments p = segments q) ∧
    normalize (resolve target cwd) = resolve target cwd ∧
    ∀ path, normalize path = path → path ≠ root →
      ∃ dir name, split path = (some dir, name) ∧ IsChild path dir name ∧
        segments path = segments dir ++ [name] ∧
        ∀ dir' name', IsChild path dir' name' → dir' = dir ∧ name' = name := by
  refine ⟨isNormal_iff, normalize_normalize p, normalize_eq_normalize_iff, normalize_resolve target cwd, ?_⟩
  intro path hpath hroot
  obtain ⟨dir, name, hsplit⟩ := IsNormal.exists_split hpath hroot
  have hchild : IsChild path dir name := isChild_iff.mpr ⟨hpath, hsplit⟩
  exact ⟨dir, name, hsplit, hchild, hchild.segments_eq, fun _ _ => hchild.unique⟩

/-- Two dots right below the root, a name like any other. -/
theorem normal_form_by_names_and_parent_dots :
    let path : Text := "/.."
    let dots : Text := ".."
    (normalize path = path ∧ path ≠ root) ∧ split path = (some root, dots) ∧ IsChild path root dots ∧
      ∀ dir name, IsChild path dir name → dir = root ∧ name = dots := by
  intro path dots
  have hpath : normalize path = path := by decide
  have hroot : path ≠ root := by decide
  have hsplit : split path = (some root, dots) := by decide
  obtain ⟨-, -, -, -, hparts⟩ := normal_form_by_names_and_parent "/.." "//..//" dots root
  obtain ⟨dir, name, hsplit', hchild, -, hunique⟩ := hparts path hpath hroot
  obtain ⟨hdir, rfl⟩ := Prod.mk.inj (hsplit'.symm.trans hsplit)
  obtain rfl := Option.some.inj hdir
  exact ⟨⟨hpath, hroot⟩, hsplit, hchild, hunique⟩

end TreeShell.Path
