/-
  TreeShell.Proofs.Path.Normal — normal forms, slash by slash.

  An absolute path is normalized if no piece between its slashes is empty, and a piece is
  empty exactly where a slash stands at an end or next to another (`nil_mem_splitOn_iff`).
  So a text can be put behind a normalized path, with a slash between, exactly if it is not
  empty and has no such slash (`IsNames`, `isNormal_child_iff`); the whole is then the path
  that the text stands for in that directory (`resolve_eq_child`), and lies below it
  (`isBelow_child`).
-/

import TreeShell.Proofs.Path.Child

namespace TreeShell

namespace Text

theorem join_append (sep : Text) {a b : List Text} (ha : a ≠ []) (hb : b ≠ []) :
    join sep (a ++ b) = join sep a ++ sep ++ join sep b := by
  obtain ⟨next, rest, rfl⟩ := List.exists_cons_of_ne_nil hb
  induction a with
  | nil => exact absurd rfl ha
  | cons piece pieces ih =>
    cases pieces with
    | nil => rfl
    | cons piece' pieces => simpa using ih (by simp)

/-- A cut has an empty piece where a separator stands at an end or next to another. -/
theorem nil_mem_splitOn_iff {sep : Char} {t : Text} :
    [] ∈ splitOn sep t ↔ t = [] ∨ t.head? = some sep ∨ t.getLast? = some sep ∨ [sep, sep] <:+: t := by
  constructor
  · intro h
    obtain ⟨before, after, hsplit⟩ := List.append_of_mem h
    have ht : t = join [sep] (before ++ [] :: after) := by rw [← hsplit, join_splitOn]
    by_cases hbefore : before = []
    · subst hbefore
      cases after with
      | nil => exact .inl ht
      | cons next rest => exact .inr (.inl (by rw [ht]; rfl))
    · rw [join_append _ hbefore (by simp)] at ht
      right; right
      cases after with
      | nil => exact .inl (by rw [ht]; simp [join])
      | cons next rest => exact .inr ⟨join [sep] before, join [sep] (next :: rest), by rw [ht]; simp⟩
  · rintro (rfl | hhead | hlast | ⟨before, after, rfl⟩)
    · exact List.mem_singleton_self []
    · obtain ⟨rest, rfl⟩ := List.head?_eq_some_iff.mp hhead
      simp [splitOn]
    · obtain ⟨init, rfl⟩ := List.getLast?_eq_some_iff.mp hlast
      rw [splitOn_append_sep]
      simp [splitOn]
    · have hcut : before ++ [sep, sep] ++ after = before ++ sep :: sep :: after := by simp
      rw [hcut, splitOn_append_sep]
      simp [splitOn]

end Text

namespace Path

open Text

/-- One name or more with one slash between any two: no slash at an end, no two together. -/
structure IsNames (t : Text) : Prop where
  ne_nil : t ≠ []
  leading : t.head? ≠ some '/'
  trailing : t.getLast? ≠ some '/'
  doubled : ¬['/', '/'] <:+: t

theorem isNames_iff {t : Text} : IsNames t ↔ [] ∉ splitOn '/' t := by
  rw [nil_mem_splitOn_iff]
  constructor
  · rintro ⟨hne, hleading, htrailing, hdoubled⟩
    simp [hne, hleading, htrailing, hdoubled]
  · intro h
    simp only [not_or] at h
    obtain ⟨hne, hleading, htrailing, hdoubled⟩ := h
    exact ⟨hne, hleading, htrailing, hdoubled⟩

theorem segments_eq_splitOn {t : Text} (h : IsNames t) : segments t = splitOn '/' t :=
  List.filter_eq_self.mpr fun _ hpiece => decide_eq_true fun e => isNames_iff.mp h (e ▸ hpiece)

theorem isNormal_slash_iff {t : Text} : IsNormal ('/' :: t) ↔ t = [] ∨ IsNames t := by
  have hsegments : segments ('/' :: t) = segments t := by simp [segments, splitOn]
  unfold IsNormal normalize ofSegments
  rw [hsegments, List.cons.injEq]
  constructor
  · rintro ⟨-, h⟩
    by_cases hnames : segments t = []
    · rw [hnames] at h
      exact .inl h.symm
    · right
      have hpieces := splitOn_join hnames fun _ hpiece => (isName_of_mem_segments hpiece).2
      rw [h] at hpieces
      rw [isNames_iff, hpieces]
      exact fun hnil => (isName_of_mem_segments hnil).1 rfl
  · rintro (rfl | h)
    · exact ⟨rfl, rfl⟩
    · rw [segments_eq_splitOn h]
      exact ⟨rfl, join_splitOn '/' t⟩

theorem segments_append_slash (a b : Text) : segments (a ++ '/' :: b) = segments a ++ segments b := by
  unfold segments
  rw [splitOn_append_sep, List.filter_append]

theorem segments_ne_nil {t : Text} (h : IsNames t) : segments t ≠ [] := by
  rw [segments_eq_splitOn h]
  exact splitOn_ne_nil '/' t

/-- `path` is reached from `dir` through one name or more. -/
def IsBelow (dir path : Text) : Prop := ∃ names, names ≠ [] ∧ segments path = segments dir ++ names

theorem isBelow_iff {dir path : Text} :
    IsBelow dir path ↔ segments dir <+: segments path ∧ segments dir ≠ segments path := by
  constructor
  · rintro ⟨names, hne, hs⟩
    refine ⟨⟨names, hs.symm⟩, fun e => hne ?_⟩
    rw [← e] at hs
    exact List.self_eq_append_right.mp hs
  · rintro ⟨⟨names, hs⟩, hne⟩
    refine ⟨names, ?_, hs.symm⟩
    rintro rfl
    rw [List.append_nil] at hs
    exact hne hs

instance (dir path : Text) : Decidable (IsBelow dir path) := decidable_of_iff _ isBelow_iff.symm

theorem IsBelow.ne {dir path : Text} (h : IsBelow dir path) : path ≠ dir := by
  rintro rfl
  obtain ⟨names, hne, hs⟩ := h
  exact hne (List.self_eq_append_right.mp hs)

theorem IsBelow.ne_root {dir path : Text} (h : IsBelow dir path) : path ≠ root := by
  rintro rfl
  obtain ⟨names, hne, hs⟩ := h
  have hroot : segments root = [] := by decide
  rw [hroot] at hs
  exact hne (List.append_eq_nil_iff.mp hs.symm).2

section

variable {dir : Text} (hd : IsNormal dir) {t : Text}

include hd

theorem stem_of_ne_root (hroot : dir ≠ root) : stem dir = dir := by
  rcases hd.cases_child with rfl | ⟨above, name, -, hn, rfl⟩
  · exact absurd rfl hroot
  · exact stem_child hn above

theorem segments_stem : segments (stem dir) = segments dir := by
  by_cases hroot : dir = root
  · rw [hroot]; decide
  · rw [stem_of_ne_root hd hroot]

theorem segments_child_text : segments (child dir t) = segments dir ++ segments t := by
  unfold child
  rw [segments_append_slash, segments_stem hd]

/-- A text behind a slash below a normalized path makes a normalized path if it is made of
    names. -/
theorem isNormal_child_iff (hne : t ≠ []) : IsNormal (child dir t) ↔ IsNames t := by
  by_cases hroot : dir = root
  · have hchild : child dir t = '/' :: t := by rw [hroot]; rfl
    rw [hchild, isNormal_slash_iff]
    simp [hne]
  · obtain ⟨names, hdir⟩ : ∃ names, dir = '/' :: names := ⟨_, hd.eq_ofSegments⟩
    have hchild : child dir t = '/' :: (names ++ '/' :: t) := by
      unfold child
      rw [stem_of_ne_root hd hroot, hdir]
      rfl
    have hnames : IsNames names := by
      rw [hdir] at hd hroot
      exact (isNormal_slash_iff.mp hd).resolve_left fun e => hroot (e ▸ rfl)
    rw [hchild, isNormal_slash_iff, isNames_iff, isNames_iff, splitOn_append_sep, List.mem_append]
    simp [isNames_iff.mp hnames]

theorem resolve_eq_child (ht : IsNames t) : resolve t dir = child dir t := by
  have hrelative : isAbsolute t = false := by simpa [isAbsolute] using ht.leading
  have hnormal : IsNormal (child dir t) := (isNormal_child_iff hd ht.ne_nil).mpr ht
  unfold resolve
  rw [hrelative, if_neg Bool.false_ne_true, ← hnormal]
  unfold normalize
  rw [segments_append_slash, segments_child_text hd]

theorem isBelow_child (ht : IsNames t) : IsBelow dir (child dir t) :=
  ⟨segments t, segments_ne_nil ht, segments_child_text hd⟩

end

end Path

end TreeShell
