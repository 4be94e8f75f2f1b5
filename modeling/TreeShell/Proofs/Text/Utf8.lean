/-
  TreeShell.Proofs.Text.Utf8 — the octets of a character, read back.

  The octets of a character stand for it whatever follows them (`decode_encodeChar_append`).
  Their first one continues no character, so that whatever comes before them, be it half a
  character, is read as it is by itself (`decode_append_encodeChar`). There are never more
  characters than octets (`length_decode_le`).
-/

import Mathlib.Tactic.SplitIfs
import TreeShell.Text.Utf8

namespace TreeShell.Text.Utf8

/-! ## Characters of one to four octets -/

section

variable {a b c d : Nat} (rest : List Nat)

theorem decode_one (ha : a < 0x80) : decode (a :: rest) = Char.ofNat a :: decode rest := by
  rw [decode.eq_def]
  simp only [ha, if_true]

theorem decode_two (ha : 0xC2 ≤ a ∧ a ≤ 0xDF) (hb : isTail b = true) :
    decode (a :: b :: rest) = char2 a b :: decode rest := by
  have h1 : ¬a < 0x80 := by omega
  have h2 : (decide (0xC2 ≤ a) && decide (a ≤ 0xDF)) = true := by simpa using ha
  rw [decode.eq_def]
  simp only [h1, h2, hb, if_true, if_false]

theorem decode_three (ha : 0xE0 ≤ a ∧ a ≤ 0xEF) (hb : isSecond a b = true) (hc : isTail c = true) :
    decode (a :: b :: c :: rest) = char3 a b c :: decode rest := by
  have h1 : ¬a < 0x80 := by omega
  have h2 : (decide (0xC2 ≤ a) && decide (a ≤ 0xDF)) = false := by simp; omega
  have h3 : (decide (0xE0 ≤ a) && decide (a ≤ 0xEF)) = true := by simpa using ha
  rw [decode.eq_def]
  simp only [h1, h2, h3, hb, hc, if_true, if_false, Bool.false_eq_true]

theorem decode_four (ha : 0xF0 ≤ a ∧ a ≤ 0xF4) (hb : isSecond a b = true) (hc : isTail c = true)
    (hd : isTail d = true) : decode (a :: b :: c :: d :: rest) = char4 a b c d :: decode rest := by
  have h1 : ¬a < 0x80 := by omega
  have h2 : (decide (0xC2 ≤ a) && decide (a ≤ 0xDF)) = false := by simp; omega
  have h3 : (decide (0xE0 ≤ a) && decide (a ≤ 0xEF)) = false := by simp; omega
  have h4 : (decide (0xF0 ≤ a) && decide (a ≤ 0xF4)) = true := by simpa using ha
  rw [decode.eq_def]
  simp only [h1, h2, h3, h4, hb, hc, hd, if_true, if_false, Bool.false_eq_true]

end

/-! ## Reading back -/

theorem isTail_low (n : Nat) : isTail (0x80 + n % 0x40) = true := by
  unfold isTail
  simp
  omega

theorem decode_encodeChar_append (c : Char) (rest : List Nat) :
    decode (encodeChar c ++ rest) = c :: decode rest := by
  have hvalid : c.toNat < 0xD800 ∨ 0xDFFF < c.toNat ∧ c.toNat < 0x110000 := c.valid
  generalize hn : c.toNat = n at hvalid
  have hc : Char.ofNat n = c := by rw [← hn, Char.ofNat_toNat]
  unfold encodeChar
  simp only [hn]
  -- the octets hold the number of the character in base 64
  split_ifs with h1 h2 h3
  · rw [List.singleton_append, decode_one rest h1, hc]
  · have hchar : char2 (0xC0 + n / 0x40) (0x80 + n / 1 % 0x40) = c := by
      rw [← hc]
      exact congrArg Char.ofNat (by omega)
    rw [← hchar]
    exact decode_two rest (by omega) (isTail_low _)
  · have hsecond : isSecond (0xE0 + n / 0x1000) (0x80 + n / 0x40 % 0x40) = true := by
      unfold isSecond secondRange
      split_ifs <;> simp <;> omega
    have hchar : char3 (0xE0 + n / 0x1000) (0x80 + n / 0x40 % 0x40) (0x80 + n / 1 % 0x40) = c := by
      rw [← hc]
      exact congrArg Char.ofNat (by omega)
    rw [← hchar]
    exact decode_three rest (by omega) hsecond (isTail_low _)
  · have hsecond : isSecond (0xF0 + n / 0x40000) (0x80 + n / 0x1000 % 0x40) = true := by
      unfold isSecond secondRange
      split_ifs <;> simp <;> omega
    have hchar : char4 (0xF0 + n / 0x40000) (0x80 + n / 0x1000 % 0x40) (0x80 + n / 0x40 % 0x40)
        (0x80 + n / 1 % 0x40) = c := by
      rw [← hc]
      exact congrArg Char.ofNat (by omega)
    rw [← hchar]
    exact decode_four rest (by omega) hsecond (isTail_low _) (isTail_low _)

/-! ## What stands before -/

theorem isTail_of_isSecond {a b : Nat} (h : isSecond a b = true) : isTail b = true := by
  unfold isSecond secondRange at h
  unfold isTail
  split_ifs at h <;> simp at h ⊢ <;> omega

/-- An octet that continues no character ends what stands before it. -/
theorem decode_append (octets : List Nat) {b : Nat} (hb : isTail b = false) (rest : List Nat) :
    decode (octets ++ b :: rest) = decode octets ++ decode (b :: rest) := by
  have hsecond : ∀ a, isSecond a b = false := by
    intro a
    cases h : isSecond a b with
    | false => rfl
    | true => rw [isTail_of_isSecond h] at hb; cases hb
  fun_induction decode octets with
  | case1 => rfl
  | _ =>
    simp only [List.cons_append, List.nil_append] at *
    conv => lhs; rw [decode.eq_def]
    simp only [*, if_true, if_false, Bool.false_eq_true]

theorem exists_encodeChar_eq_cons (c : Char) :
    ∃ b octets, encodeChar c = b :: octets ∧ isTail b = false := by
  unfold encodeChar isTail
  simp only
  split_ifs with h1 h2 h3 <;> refine ⟨_, _, rfl, ?_⟩ <;> simp <;> omega

theorem decode_append_encodeChar (octets : List Nat) (c : Char) (rest : List Nat) :
    decode (octets ++ (encodeChar c ++ rest)) = decode octets ++ c :: decode rest := by
  obtain ⟨b, others, hchar, hb⟩ := exists_encodeChar_eq_cons c
  rw [← decode_encodeChar_append c rest, hchar, List.cons_append, decode_append octets hb]

theorem length_decode_le (octets : List Nat) : (decode octets).length ≤ octets.length := by
  fun_induction decode octets <;> simp_all <;> omega

end TreeShell.Text.Utf8
