/-
  TreeShell.Proofs.Token — tokens read off the number of quotes before each character.

  Whether a character stands between quotes shows without going through the text: the quotes
  before it are then odd in number (`marked`). The characters but the quotes, cut at the
  separators that do not stand between quotes, are the pieces of a text (`pieces_eq_cut`).

  Main statement: the tokens are those pieces but the empty ones, they hold all of the text
  except its quotes and the separators outside them, and behind quotes that are even in
  number a space parts the tokens before it from those after it (`split_eq_cut`).
-/

import Mathlib.Data.List.Basic
import TreeShell.Token

namespace TreeShell.Token

def oddQuotes (t : Text) : Bool := t.count quote % 2 == 1

/-- Each character, and whether the quotes before it are odd in number. -/
def marked (raw : Text) : List (Char × Bool) := raw.mapIdx fun i c => (c, oddQuotes (raw.take i))

/-- A separator behind an even number of quotes. -/
def isBreak (m : Char × Bool) : Bool := isSeparator m.1 && !m.2

/-- The characters but the quotes, cut at every break and without it. -/
def cut (marks : List (Char × Bool)) : List Text :=
  ((marks.filter fun m => m.1 ≠ quote).splitOnP isBreak).map (List.map Prod.fst)

/-! ## Marks -/

/-- The mark behind further quotes, which are odd in number if `odd`. -/
def behind (odd : Bool) (m : Char × Bool) : Char × Bool := (m.1, odd ^^ m.2)

theorem map_behind_false (marks : List (Char × Bool)) : marks.map (behind false) = marks := by
  have hid : behind false = id := funext fun m => by simp [behind]
  rw [hid, List.map_id]

theorem map_behind_behind (odd odd' : Bool) (marks : List (Char × Bool)) :
    (marks.map (behind odd')).map (behind odd) = marks.map (behind (odd ^^ odd')) := by
  have hcomp : behind odd ∘ behind odd' = behind (odd ^^ odd') := funext fun m => by simp [behind]
  rw [List.map_map, hcomp]

theorem oddQuotes_append (a b : Text) : oddQuotes (a ++ b) = (oddQuotes a ^^ oddQuotes b) := by
  unfold oddQuotes
  rw [List.count_append]
  rcases Nat.mod_two_eq_zero_or_one (a.count quote) with ha | ha <;>
    rcases Nat.mod_two_eq_zero_or_one (b.count quote) with hb | hb <;>
    simp [Nat.add_mod, ha, hb]

theorem marked_append (a b : Text) : marked (a ++ b) = marked a ++ (marked b).map (behind (oddQuotes a)) := by
  have hfirst : a.mapIdx (fun i c => (c, oddQuotes ((a ++ b).take i))) = marked a := by
    refine List.mapIdx_eq_mapIdx_iff.mpr fun i h => ?_
    rw [List.take_append_of_le_length (Nat.le_of_lt h)]
  have hrest : b.mapIdx (fun i c => (c, oddQuotes ((a ++ b).take (i + a.length)))) =
      (marked b).map (behind (oddQuotes a)) := by
    refine List.ext_getElem? fun i => ?_
    have htake : (a ++ b).take (i + a.length) = a ++ b.take i := by
      rw [Nat.add_comm, List.take_length_add_append]
    simp [marked, htake, oddQuotes_append, Function.comp_def, behind]
  rw [← hfirst, ← hrest]
  exact List.mapIdx_append

theorem marked_cons (c : Char) (cs : Text) :
    marked (c :: cs) = (c, false) :: (marked cs).map (behind (c == quote)) := by
  have hone : oddQuotes [c] = (c == quote) := by
    by_cases h : c = quote <;> simp [oddQuotes, h]
  rw [← hone]
  exact marked_append [c] cs

/-! ## Cuts -/

section

variable {m : Char × Bool} (marks : List (Char × Bool))

theorem cut_quote (h : m.1 = quote) : cut (m :: marks) = cut marks := by
  simp [cut, h]

theorem cut_break (hquote : m.1 ≠ quote) (h : isBreak m = true) : cut (m :: marks) = [] :: cut marks := by
  simp [cut, hquote, h, List.splitOnP_cons_eq_if_modifyHead]

theorem cut_other (hquote : m.1 ≠ quote) (h : isBreak m = false) :
    cut (m :: marks) = (cut marks).modifyHead (m.1 :: ·) := by
  unfold cut
  rw [List.filter_cons_of_pos (by simpa using hquote), List.splitOnP_cons_eq_if_modifyHead, if_neg (by simp [h])]
  cases (marks.filter fun m => m.1 ≠ quote).splitOnP isBreak <;> rfl

end

/-- Cutting behind quotes, odd or even in number, is what the scan does with a quote open or
    not. -/
theorem pieces_eq_cut (quoted : Bool) (raw : Text) : pieces quoted raw = cut ((marked raw).map (behind quoted)) := by
  induction raw generalizing quoted with
  | nil => rfl
  | cons c cs ih =>
    rw [marked_cons, List.map_cons, map_behind_behind]
    by_cases hquote : c = quote
    · have hopen : (quoted ^^ (c == quote)) = !quoted := by simp [hquote]
      rw [cut_quote _ hquote, hopen, ← ih]
      simp [pieces, hquote]
    · have hsame : (quoted ^^ (c == quote)) = quoted := by rw [beq_false_of_ne hquote, Bool.xor_false]
      have hbreak : isBreak (behind quoted (c, false)) = (isSeparator c && !quoted) := by
        unfold isBreak behind
        rw [Bool.xor_false]
      rw [hsame]
      by_cases hsep : (isSeparator c && !quoted) = true
      · obtain ⟨hblank, hout⟩ : isSeparator c = true ∧ quoted = false := by simpa using hsep
        rw [cut_break _ hquote (hbreak.trans hsep), ← ih, hout]
        simp [pieces, hquote, hblank]
      · rw [cut_other _ hquote (hbreak.trans (by simpa using hsep)), ← ih]
        obtain ⟨piece, rest, hp⟩ := List.exists_cons_of_ne_nil (pieces_ne_nil quoted cs)
        simp [pieces, hquote, hsep, hp, behind]

theorem flatten_splitOnP {α : Type} (p : α → Bool) (l : List α) : (l.splitOnP p).flatten = l.filter fun a => !p a := by
  induction l with
  | nil => rfl
  | cons a l ih =>
    rw [List.splitOnP_cons_eq_if_modifyHead]
    obtain ⟨piece, rest, hp⟩ := List.exists_cons_of_ne_nil (List.splitOnP_ne_nil p l)
    by_cases h : p a = true
    · simp [h, ih]
    · rw [hp, List.flatten_cons] at ih
      simp [h, hp, ← ih]

/-- The cut keeps what is neither a quote nor a break. -/
theorem flatten_cut (marks : List (Char × Bool)) :
    (cut marks).flatten = (marks.filter fun m => m.1 ≠ quote && !isBreak m).map Prod.fst := by
  unfold cut
  rw [← List.map_flatten, flatten_splitOnP, List.filter_filter]
  simp [Bool.and_comm]

theorem cut_append_break {m : Char × Bool} (hquote : m.1 ≠ quote) (h : isBreak m = true)
    (marks marks' : List (Char × Bool)) : cut (marks ++ m :: marks') = cut marks ++ cut marks' := by
  unfold cut
  rw [List.filter_append, List.filter_cons_of_pos (by simpa using hquote), List.splitOnP_append_cons _ _ h,
    List.map_append]

/-! ## Tokens -/

/-- The tokens of a text are its characters but the quotes, cut at the separators before
    which the quotes are even in number, without empty pieces. So no token is empty or holds
    a quote, all tokens together are the text without quotes and those separators, and where
    the quotes of a text are even in number, a space behind it ends its tokens. -/
theorem split_eq_cut (raw : Text) :
    split raw = (cut (marked raw)).filter (· ≠ []) ∧
    (∀ token ∈ split raw, token ≠ [] ∧ quote ∉ token) ∧
    (split raw).flatten = ((marked raw).filter fun m => m.1 ≠ quote && !isBreak m).map Prod.fst ∧
    ∀ before after : Text, before.count quote % 2 = 0 →
      split (before ++ ' ' :: after) = split before ++ split after := by
  have hcut : ∀ t, split t = (cut (marked t)).filter (· ≠ []) := fun t => by
    unfold split
    rw [pieces_eq_cut, map_behind_false]
  have hflatten : (split raw).flatten = ((marked raw).filter fun m => m.1 ≠ quote && !isBreak m).map Prod.fst := by
    rw [hcut, List.flatten_filter_ne_nil, flatten_cut]
  refine ⟨hcut raw, fun token htoken => ⟨ne_nil_of_mem_split htoken, fun hmem => ?_⟩, hflatten, ?_⟩
  · have hquote : quote ∈ (split raw).flatten := List.mem_flatten.mpr ⟨token, htoken, hmem⟩
    rw [hflatten] at hquote
    obtain ⟨m, hm, he⟩ := List.mem_map.mp hquote
    simp [he] at hm
  · intro before after heven
    have hodd : oddQuotes before = false := by simp [oddQuotes, heven]
    have hmarks : marked (before ++ ' ' :: after) = marked before ++ (' ', false) :: marked after := by
      rw [marked_append, hodd, map_behind_false, marked_cons]
      exact congrArg (fun l => marked before ++ (' ', false) :: l) (map_behind_false _)
    rw [hcut, hcut, hcut, hmarks, cut_append_break (by decide) (by decide), List.filter_append]

/-- Quotes glued to a word, quotes around nothing, and one that is still open at the end. -/
theorem split_eq_cut_glued :
    let before : Text := "a\" b\"c  \"\""
    let after : Text := "d \"e\tf"
    before.count quote % 2 = 0 ∧ split (before ++ ' ' :: after) = split before ++ split after ∧
      split before = ["a bc"] ∧ split after = ["d", "e\tf"] := by
  intro before after
  obtain ⟨-, -, -, happend⟩ := split_eq_cut before
  have heven : before.count quote % 2 = 0 := by decide
  exact ⟨heven, happend before after heven, by decide, by decide⟩

end TreeShell.Token
