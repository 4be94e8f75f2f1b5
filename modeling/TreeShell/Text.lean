/-
  TreeShell.Text — text as a list of characters, with the few operations the rest of
  the library is written in.

  Every text of the library (paths, tokens, command lines, messages) is a `Text`. A
  string literal may stand where a `Text` is expected. Cutting at a separator and
  joining with it are inverse to each other (`join_splitOn`, `splitOn_join`), and no
  piece of a cut holds the separator (`not_mem_of_mem_splitOn`).
-/

namespace TreeShell

abbrev Text := List Char

instance : Coe String Text := ⟨String.toList⟩

namespace Text

/-! ## Cutting and joining -/

/-- The pieces between the occurrences of `sep`; always one more than there are
    separators, so the empty text has the one piece `[]`. -/
def splitOn (sep : Char) : Text → List Text
  | [] => [[]]
  | c :: cs =>
    if c = sep then [] :: splitOn sep cs
    else
      match splitOn sep cs with
      | [] => [[c]]
      | piece :: pieces => (c :: piece) :: pieces

def join (sep : Text) : List Text → Text
  | [] => []
  | [piece] => piece
  | piece :: pieces => piece ++ sep ++ join sep pieces

theorem splitOn_ne_nil (sep : Char) (t : Text) : splitOn sep t ≠ [] := by
  cases t with
  | nil => simp [splitOn]
  | cons c cs =>
    by_cases h : c = sep
    · simp [splitOn, h]
    · simp only [splitOn, h, if_false]
      split <;> simp

@[simp] theorem join_cons_cons (sep piece next : Text) (pieces : List Text) :
    join sep (piece :: next :: pieces) = piece ++ sep ++ join sep (next :: pieces) := rfl

theorem join_splitOn (sep : Char) (t : Text) : join [sep] (splitOn sep t) = t := by
  induction t with
  | nil => rfl
  | cons c cs ih =>
    have hne := splitOn_ne_nil sep cs
    by_cases h : c = sep
    · subst h
      simp only [splitOn, if_true]
      cases hs : splitOn c cs with
      | nil => exact absurd hs hne
      | cons piece pieces => rw [hs] at ih; simp [ih]
    · simp only [splitOn, h, if_false]
      cases hs : splitOn sep cs with
      | nil => exact absurd hs hne
      | cons piece pieces =>
        rw [hs] at ih
        cases pieces with
        | nil => simpa [join] using ih
        | cons next rest => simpa using ih

theorem not_mem_of_mem_splitOn {sep : Char} {t piece : Text} (h : piece ∈ splitOn sep t) :
    sep ∉ piece := by
  induction t generalizing piece with
  | nil => simp only [splitOn, List.mem_singleton] at h; simp [h]
  | cons c cs ih =>
    by_cases hc : c = sep
    · simp only [splitOn, hc, if_true, List.mem_cons] at h
      rcases h with rfl | h
      · simp
      · exact ih h
    · simp only [splitOn, hc, if_false] at h
      split at h
      next hs => exact absurd hs (splitOn_ne_nil sep cs)
      next first rest hs =>
        rw [hs] at ih
        simp only [List.mem_cons] at h ih
        rcases h with rfl | h
        · have := ih (Or.inl rfl)
          simp [this, Ne.symm hc]
        · exact ih (Or.inr h)

theorem splitOn_eq_self {sep : Char} {t : Text} (h : sep ∉ t) : splitOn sep t = [t] := by
  induction t with
  | nil => rfl
  | cons c cs ih =>
    simp only [List.mem_cons, not_or] at h
    simp [splitOn, Ne.symm h.1, ih h.2]

/-- A cut falls apart at every separator. -/
theorem splitOn_append_sep (sep : Char) (a b : Text) :
    splitOn sep (a ++ sep :: b) = splitOn sep a ++ splitOn sep b := by
  induction a with
  | nil => simp [splitOn]
  | cons c cs ih =>
    by_cases h : c = sep
    · simp [splitOn, h, ih]
    · obtain ⟨piece, pieces, hp⟩ := List.exists_cons_of_ne_nil (splitOn_ne_nil sep cs)
      simp [splitOn, h, ih, hp]

theorem splitOn_append_cons {sep : Char} {t : Text} (h : sep ∉ t) (rest : Text) :
    splitOn sep (t ++ sep :: rest) = t :: splitOn sep rest := by
  rw [splitOn_append_sep, splitOn_eq_self h]
  rfl

theorem splitOn_join {sep : Char} {pieces : List Text} (hne : pieces ≠ [])
    (h : ∀ piece ∈ pieces, sep ∉ piece) : splitOn sep (join [sep] pieces) = pieces := by
  induction pieces with
  | nil => exact absurd rfl hne
  | cons piece rest ih =>
    have hp := h piece (by simp)
    cases rest with
    | nil => exact splitOn_eq_self hp
    | cons next tail =>
      have := ih (by simp) (fun p hp => h p (by simp [hp]))
      simp only [join_cons_cons, List.append_assoc, List.singleton_append]
      rw [splitOn_append_cons hp, this]

/-! ## Ends -/

def dropEndWhile (p : Char → Bool) (t : Text) : Text :=
  (t.reverse.dropWhile p).reverse

def startsWith (start t : Text) : Bool := start.isPrefixOf t

/-- The order by code point. -/
def le : Text → Text → Bool
  | [], _ => true
  | _ :: _, [] => false
  | a :: s, b :: t => a.toNat < b.toNat || (a.toNat == b.toNat && le s t)

/-- Decimal digits, with a minus sign for a negative number. -/
def ofInt (n : Int) : Text :=
  if n < 0 then '-' :: Nat.toDigits 10 n.natAbs else Nat.toDigits 10 n.natAbs

def ofNat (n : Nat) : Text := Nat.toDigits 10 n

/-- The number that decimal digits spell. -/
def natural (digits : Text) : Nat := digits.foldl (fun n d => 10 * n + (d.toNat - '0'.toNat)) 0

/-- At least one decimal digit, and nothing else. -/
def isNumeral (t : Text) : Bool := t ≠ [] && t.all Char.isDigit

def hexDigit? (c : Char) : Option Nat :=
  if c.isDigit then some (c.toNat - '0'.toNat)
  else if 'a' ≤ c && c ≤ 'f' then some (c.toNat - 'a'.toNat + 10)
  else if 'A' ≤ c && c ≤ 'F' then some (c.toNat - 'A'.toNat + 10)
  else none

end Text

end TreeShell
