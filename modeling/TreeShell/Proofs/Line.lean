/-
  TreeShell.Proofs.Line — the commands of a line, piece by piece.

  No blank is a separator, so trimming the whole line before the cut shows in no trimmed
  piece (`map_trim_splitOn_trim`): the commands of a line that is not a comment are its
  trimmed pieces but the blank ones (`commands_eq_pieces`), and those of two lines joined
  at a separator are those of the one and then those of the other (`commands_append`).
-/

import Mathlib.Data.List.Induction
import TreeShell.Line

namespace TreeShell

namespace Text

/-! ## Trimming -/

theorem trimEnd_append_blank {c : Char} (h : isBlank c = true) (t : Text) : trimEnd (t ++ [c]) = trimEnd t := by
  simp [trimEnd, dropEndWhile, h]

theorem trim_cons_blank {c : Char} (h : isBlank c = true) (t : Text) : trim (c :: t) = trim t := by
  simp [trim, trimStart, h]

theorem trim_append_blank {c : Char} (h : isBlank c = true) (t : Text) : trim (t ++ [c]) = trim t := by
  unfold trim trimStart
  rw [List.dropWhile_append]
  split
  · rename_i he
    rw [List.isEmpty_iff.mp he]
    simp [h]
  · exact trimEnd_append_blank h _

/-- The first character of a trimmed text is the first one that is not blank. -/
theorem head?_trim (t : Text) : (trim t).head? = t.find? fun c => !isBlank c := by
  induction t with
  | nil => rfl
  | cons c cs ih =>
    by_cases h : isBlank c = true
    · rw [trim_cons_blank h, ih, List.find?_cons_of_neg (by simp [h])]
    · have hs : trimStart (c :: cs) = c :: cs := by simp [trimStart, h]
      rw [List.find?_cons_of_pos (by simp [h])]
      unfold trim trimEnd dropEndWhile
      rw [hs, List.reverse_cons, List.dropWhile_append]
      split
      · simp [h]
      · simp

theorem trim_eq_self {t : Text} (hfirst : ∀ c, t.head? = some c → isBlank c = false)
    (hlast : ∀ c, t.getLast? = some c → isBlank c = false) : trim t = t := by
  have hstart : trimStart t = t := by
    cases t with
    | nil => rfl
    | cons c cs => exact List.dropWhile_cons_of_neg (by simp [hfirst c rfl])
  have hend : trimEnd t = t := by
    rcases List.eq_nil_or_concat t with rfl | ⟨init, c, rfl⟩
    · rfl
    · have hc : isBlank c = false := hlast c (by simp)
      simp [trimEnd, dropEndWhile, hc]
  unfold trim
  rw [hstart, hend]

/-! ## Cutting -/

theorem splitOn_cons_of_ne {sep c : Char} (h : c ≠ sep) (t : Text) :
    ∃ piece pieces, splitOn sep t = piece :: pieces ∧ splitOn sep (c :: t) = (c :: piece) :: pieces := by
  obtain ⟨piece, pieces, hp⟩ := List.exists_cons_of_ne_nil (splitOn_ne_nil sep t)
  exact ⟨piece, pieces, hp, by simp [splitOn, h, hp]⟩

theorem splitOn_append_of_ne {sep c : Char} (h : c ≠ sep) (t : Text) :
    ∃ pieces last, splitOn sep t = pieces ++ [last] ∧ splitOn sep (t ++ [c]) = pieces ++ [last ++ [c]] := by
  induction t with
  | nil => exact ⟨[], [], rfl, by simp [splitOn, h]⟩
  | cons d t ih =>
    obtain ⟨pieces, last, h1, h2⟩ := ih
    by_cases hd : d = sep
    · exact ⟨[] :: pieces, last, by simp [splitOn, hd, h1], by simp [splitOn, hd, h2]⟩
    · cases pieces with
      | nil => exact ⟨[], d :: last, by simp [splitOn, hd, h1], by simp [splitOn, hd, h2]⟩
      | cons piece pieces =>
        exact ⟨(d :: piece) :: pieces, last, by simp [splitOn, hd, h1], by simp [splitOn, hd, h2]⟩

section

variable {sep : Char} (hsep : isBlank sep = false)

include hsep

theorem map_trim_splitOn_trimStart (t : Text) : (splitOn sep (trimStart t)).map trim = (splitOn sep t).map trim := by
  induction t with
  | nil => rfl
  | cons c cs ih =>
    by_cases h : isBlank c = true
    · have hc : c ≠ sep := by
        intro e
        rw [e, hsep] at h; cases h
      obtain ⟨piece, pieces, h1, h2⟩ := splitOn_cons_of_ne hc cs
      have hs : trimStart (c :: cs) = trimStart cs := by simp [trimStart, h]
      rw [hs, ih, h1, h2]
      simp [trim_cons_blank h]
    · have hs : trimStart (c :: cs) = c :: cs := by simp [trimStart, h]
      rw [hs]

theorem map_trim_splitOn_trimEnd (t : Text) : (splitOn sep (trimEnd t)).map trim = (splitOn sep t).map trim := by
  induction t using List.reverseRecOn with
  | nil => rfl
  | append_singleton init c ih =>
    by_cases h : isBlank c = true
    · have hc : c ≠ sep := by
        intro e
        rw [e, hsep] at h; cases h
      obtain ⟨pieces, last, h1, h2⟩ := splitOn_append_of_ne hc init
      rw [trimEnd_append_blank h, ih, h1, h2]
      simp [trim_append_blank h]
    · have hs : trimEnd (init ++ [c]) = init ++ [c] := by simp [trimEnd, dropEndWhile, h]
      rw [hs]

/-- Trimming before the cut shows in no trimmed piece. -/
theorem map_trim_splitOn_trim (t : Text) : (splitOn sep (trim t)).map trim = (splitOn sep t).map trim := by
  unfold trim
  exact (map_trim_splitOn_trimEnd hsep _).trans (map_trim_splitOn_trimStart hsep t)

end

end Text

namespace Line

open Text

/-- The trimmed pieces between the separators, but the blank ones. -/
def pieces (line : Text) : List Text := ((splitOn separator line).map trim).filter (· ≠ [])

def IsComment (line : Text) : Prop := (trim line).head? = some commentMark

theorem isBlank_separator : isBlank separator = false := by decide

theorem commands_eq_pieces {line : Text} (h : ¬IsComment line) : commands line = pieces line := by
  unfold IsComment at h
  unfold commands pieces
  simp only
  rw [if_neg h, map_trim_splitOn_trim isBlank_separator]

theorem pieces_append (a b : Text) : pieces (a ++ separator :: b) = pieces a ++ pieces b := by
  unfold pieces
  rw [splitOn_append_sep, List.map_append, List.filter_append]

/-- A line that starts as no comment does not become one at its end, and a blank one
    does not become one at a separator. -/
theorem not_isComment_append {a : Text} (h : ¬IsComment a) (b : Text) : ¬IsComment (a ++ separator :: b) := by
  unfold IsComment at h ⊢
  rw [head?_trim] at h ⊢
  rw [List.find?_append, List.find?_cons_of_pos (by simp [isBlank_separator])]
  cases hf : a.find? fun c => !isBlank c with
  | none => decide
  | some c => simpa [hf] using h

theorem commands_append {a b : Text} (ha : ¬IsComment a) (hb : ¬IsComment b) :
    commands (a ++ separator :: b) = commands a ++ commands b := by
  rw [commands_eq_pieces (not_isComment_append ha b), pieces_append, commands_eq_pieces ha, commands_eq_pieces hb]

end Line

end TreeShell
