/-
  TreeShell.Proofs.Http.Percent — what is read back from an escaped text.

  Escaping adds escapes and takes none away, so it shows in nothing that is read: a text
  and its escaped form decode to the same (`decode_encode`), which is the text itself if it
  holds no escapes of its own. A text that decodes to itself is as long as what it decodes
  to, and any other is longer (`length_decode_le`). Escaping a second time changes nothing
  (`encode_encode`).
-/

import TreeShell.Http.Percent
import TreeShell.Proofs.Text.Utf8

namespace TreeShell.Http.Percent

open Text (hexDigit?)

/-! ## Escapes -/

/-- The first three characters are an escape. -/
def startsEscape : Text → Bool
  | '%' :: a :: b :: _ => (hexDigit? a).isSome && (hexDigit? b).isSome
  | _ => false

theorem startsEscape_cons_of_ne {c : Char} (h : c ≠ '%') (t : Text) :
    startsEscape (c :: t) = false := by
  unfold startsEscape
  split
  · rename_i heq
    exact absurd (List.cons.inj heq).1 h
  · rfl

section

variable {octets : List Nat} {a b : Char} {rest : Text}

theorem decodeFrom_escape {high low : Nat} (ha : hexDigit? a = some high) (hb : hexDigit? b = some low) :
    decodeFrom octets ('%' :: a :: b :: rest) = decodeFrom (octets ++ [16 * high + low]) rest := by
  rw [decodeFrom.eq_def]
  simp only [ha, hb]

theorem decodeFrom_plain {c : Char} (h : startsEscape (c :: rest) = false) :
    decodeFrom octets (c :: rest) = Text.Utf8.decode octets ++ c :: decodeFrom [] rest := by
  rw [decodeFrom.eq_def]
  split
  · rename_i heq
    cases heq
  · rename_i a b rest' heq
    obtain ⟨rfl, rfl⟩ := List.cons.inj heq
    unfold startsEscape at h
    cases ha : hexDigit? a <;> cases hb : hexDigit? b <;> simp_all
  · rename_i heq
    obtain ⟨rfl, rfl⟩ := List.cons.inj heq
    rfl

end

theorem hexDigit?_hexDigits {n : Nat} (h : n < 16) : hexDigit? (hexDigits.getD n '0') = some n := by
  have hall : ∀ n < 16, hexDigit? (hexDigits.getD n '0') = some n := by decide
  exact hall n h

theorem decodeFrom_flatMap_escape (octets : List Nat) {more : List Nat} (h : ∀ b ∈ more, b < 256) (rest : Text) :
    decodeFrom octets (more.flatMap escape ++ rest) = decodeFrom (octets ++ more) rest := by
  induction more generalizing octets with
  | nil => simp
  | cons b more ih =>
    have hb : b < 256 := h b (by simp)
    have hhigh := hexDigit?_hexDigits (show b / 16 < 16 by omega)
    have hlow := hexDigit?_hexDigits (show b % 16 < 16 by omega)
    have hvalue : 16 * (b / 16) + b % 16 = b := by omega
    rw [List.flatMap_cons, List.append_assoc]
    show decodeFrom octets ('%' :: _ :: _ :: (more.flatMap escape ++ rest)) = _
    rw [decodeFrom_escape hhigh hlow, hvalue, ih (octets ++ [b]) fun c hc => h c (by simp [hc])]
    simp

/-! ## Escaping -/

section

variable (safe : Char → Bool)

theorem encode_nil : encode safe [] = [] := rfl

theorem encode_append (s t : Text) :
    encode safe (s ++ t) = encode safe s ++ encode safe t := List.flatMap_append

variable {safe}

theorem encode_cons_safe {c : Char} (h : safe c = true) (t : Text) :
    encode safe (c :: t) = c :: encode safe t := by
  simp [encode, h]

theorem encode_cons_escaped {c : Char} (h : safe c = false) (t : Text) :
    encode safe (c :: t) = (Text.Utf8.encodeChar c).flatMap escape ++ encode safe t := by
  simp [encode, h, Text.Utf8.encode]

theorem encode_eq_self {t : Text} (h : ∀ c ∈ t, safe c = true) : encode safe t = t := by
  induction t with
  | nil => rfl
  | cons c t ih => rw [encode_cons_safe (h c (by simp)), ih fun d hd => h d (by simp [hd])]

/-- An unsafe character is written as an escape. -/
theorem exists_encode_cons_escaped {c : Char} (h : safe c = false) (t : Text) :
    ∃ rest, encode safe (c :: t) = '%' :: rest := by
  obtain ⟨b, octets, hchar, -⟩ := Text.Utf8.exists_encodeChar_eq_cons c
  rw [encode_cons_escaped h, hchar]
  exact ⟨_, rfl⟩

theorem encodeChar_lt {c : Char} {b : Nat} (h : b ∈ Text.Utf8.encodeChar c) : b < 256 := by
  have hvalid : c.toNat < 0xD800 ∨ 0xDFFF < c.toNat ∧ c.toNat < 0x110000 := c.valid
  unfold Text.Utf8.encodeChar at h
  simp only at h
  split_ifs at h <;> simp at h <;> omega

theorem length_le_length_encode (safe : Char → Bool) (t : Text) :
    t.length ≤ (encode safe t).length := by
  induction t with
  | nil => exact Nat.le_refl 0
  | cons c t ih =>
    cases hc : safe c with
    | true =>
      rw [encode_cons_safe hc]
      simp only [List.length_cons]
      omega
    | false =>
      obtain ⟨b, octets, hchar, -⟩ := Text.Utf8.exists_encodeChar_eq_cons c
      rw [encode_cons_escaped hc, hchar]
      simp only [List.length_append, List.flatMap_cons, List.length_cons, escape]
      omega

/-- The marks and digits of escapes are safe. -/
structure KeepsEscapes (safe : Char → Bool) : Prop where
  mark : safe '%' = true
  digit : ∀ c, (hexDigit? c).isSome = true → safe c = true

/-- Escaping what follows makes no escape of what was none. -/
theorem startsEscape_cons_encode {c : Char} {t : Text} (h : startsEscape (c :: t) = false) :
    startsEscape (c :: encode safe t) = false := by
  by_cases hc : c = '%'
  · subst hc
    cases t with
    | nil => rfl
    | cons a t =>
      cases ha : safe a with
      | false =>
        obtain ⟨rest, hrest⟩ := exists_encode_cons_escaped ha t
        rw [hrest]
        cases rest <;> rfl
      | true =>
        rw [encode_cons_safe ha]
        cases t with
        | nil => rfl
        | cons b t =>
          cases hb : safe b with
          | false =>
            obtain ⟨rest, hrest⟩ := exists_encode_cons_escaped hb t
            have hmark : (hexDigit? '%').isSome = false := rfl
            rw [hrest]
            simp [startsEscape, hmark]
          | true =>
            rw [encode_cons_safe hb]
            exact h
  · exact startsEscape_cons_of_ne hc _

end

/-! ## Reading back -/

/-- Decoding goes by escapes and by other characters. -/
@[elab_as_elim]
theorem decodeFrom_induction {P : List Nat → Text → Prop} (nil : ∀ octets, P octets [])
    (escape : ∀ octets a b rest high low, hexDigit? a = some high → hexDigit? b = some low →
      P (octets ++ [16 * high + low]) rest → P octets ('%' :: a :: b :: rest))
    (plain : ∀ octets c rest, startsEscape (c :: rest) = false → P [] rest → P octets (c :: rest))
    (octets : List Nat) (t : Text) : P octets t := by
  fun_induction decodeFrom octets t with
  | case1 octets => exact nil octets
  | case2 octets a b rest high low hlow hhigh ih => exact escape octets a b rest high low hhigh hlow ih
  | case3 octets a b rest hnot ih =>
    refine plain octets '%' (a :: b :: rest) ?_ ih
    unfold startsEscape
    cases ha : hexDigit? a with
    | none => simp [ha]
    | some high =>
      cases hb : hexDigit? b with
      | none => simp [hb]
      | some low => exact (hnot high low ha hb).elim
  | case4 octets c rest hnot ih =>
    refine plain octets c rest ?_ ih
    unfold startsEscape
    split
    · rename_i a b rest' heq
      obtain ⟨rfl, rfl⟩ := List.cons.inj heq
      exact (hnot a b rest' rfl rfl).elim
    · rfl

/-- A character that was escaped ends what was read before it. -/
theorem decodeFrom_append_encodeChar (before : List Nat) (c : Char) (octets : List Nat) (t : Text) :
    decodeFrom (before ++ (Text.Utf8.encodeChar c ++ octets)) t =
      Text.Utf8.decode before ++ c :: decodeFrom octets t := by
  induction octets, t using decodeFrom_induction with
  | nil octets => exact Text.Utf8.decode_append_encodeChar before c octets
  | escape octets a b rest high low hhigh hlow ih =>
    rw [decodeFrom_escape hhigh hlow, decodeFrom_escape hhigh hlow, ← ih]
    simp only [List.append_assoc]
  | plain octets d rest hplain ih =>
    rw [decodeFrom_plain hplain, decodeFrom_plain hplain, Text.Utf8.decode_append_encodeChar]
    simp only [List.append_assoc, List.cons_append]

theorem decodeFrom_encode {safe : Char → Bool} (hsafe : KeepsEscapes safe) (octets : List Nat) (t : Text) :
    decodeFrom octets (encode safe t) = decodeFrom octets t := by
  induction octets, t using decodeFrom_induction with
  | nil octets => rfl
  | escape octets a b rest high low hhigh hlow ih =>
    have ha : safe a = true := hsafe.digit a (by rw [hhigh]; rfl)
    have hb : safe b = true := hsafe.digit b (by rw [hlow]; rfl)
    rw [encode_cons_safe hsafe.mark, encode_cons_safe ha, encode_cons_safe hb, decodeFrom_escape hhigh hlow,
      decodeFrom_escape hhigh hlow, ih]
  | plain octets c rest hplain ih =>
    rw [decodeFrom_plain hplain]
    cases hc : safe c with
    | true => rw [encode_cons_safe hc, decodeFrom_plain (startsEscape_cons_encode hplain), ih]
    | false =>
      have hafter := decodeFrom_append_encodeChar octets c [] (encode safe rest)
      rw [List.append_nil] at hafter
      rw [encode_cons_escaped hc, decodeFrom_flatMap_escape octets (fun _ => encodeChar_lt), hafter, ih]

/-- Escaping does not show in what is read. -/
theorem decode_encode {safe : Char → Bool} (hsafe : KeepsEscapes safe) (t : Text) :
    decode (encode safe t) = decode t := decodeFrom_encode hsafe [] t

theorem length_decodeFrom_le (octets : List Nat) (t : Text) :
    (decodeFrom octets t).length ≤ octets.length + t.length := by
  induction octets, t using decodeFrom_induction with
  | nil octets => exact Text.Utf8.length_decode_le octets
  | escape octets a b rest high low hhigh hlow ih =>
    rw [decodeFrom_escape hhigh hlow]
    simp at ih ⊢
    omega
  | plain octets c rest hplain ih =>
    have hbefore := Text.Utf8.length_decode_le octets
    rw [decodeFrom_plain hplain]
    simp at ih ⊢
    omega

theorem length_decode_le (t : Text) : (decode t).length ≤ t.length := by
  have h := length_decodeFrom_le [] t
  rw [List.length_nil, Nat.zero_add] at h
  exact h

/-- What stands before a character that starts no escape is no part of one. -/
theorem decode_append_of_not_mem {s : Text} (h : '%' ∉ s) (t : Text) :
    decode (s ++ t) = s ++ decode t := by
  induction s with
  | nil => rfl
  | cons c s ih =>
    have hc : c ≠ '%' := fun heq => h (by simp [heq])
    unfold decode at ih ⊢
    rw [List.cons_append, decodeFrom_plain (startsEscape_cons_of_ne hc _), ih fun hmem => h (by simp [hmem])]
    rfl

/-! ## What an escaped text is made of -/

theorem mem_encode {safe : Char → Bool} {t : Text} {c : Char} (h : c ∈ encode safe t) :
    safe c = true ∧ c ∈ t ∨ c = '%' ∨ c ∈ hexDigits := by
  unfold encode at h
  obtain ⟨d, hd, hc⟩ := List.mem_flatMap.mp h
  split at hc
  · rename_i hsafe
    obtain rfl : c = d := by simpa using hc
    exact .inl ⟨hsafe, hd⟩
  · obtain ⟨b, hb, hc⟩ := List.mem_flatMap.mp hc
    have hlt : b < 256 := encodeChar_lt (by simpa [Text.Utf8.encode] using hb)
    have hdigit : ∀ n < 16, hexDigits.getD n '0' ∈ hexDigits := by decide
    right
    unfold escape at hc
    simp only [List.mem_cons, List.not_mem_nil, or_false] at hc
    rcases hc with rfl | rfl | rfl
    · exact .inl rfl
    · exact .inr (hdigit _ (by omega))
    · exact .inr (hdigit _ (by omega))

theorem safe_of_mem_encode {safe : Char → Bool} (hsafe : KeepsEscapes safe) {t : Text} {c : Char}
    (h : c ∈ encode safe t) : safe c = true := by
  have hdigits : hexDigits.all (fun c => (hexDigit? c).isSome) = true := by decide
  rcases mem_encode h with ⟨hc, -⟩ | rfl | hc
  · exact hc
  · exact hsafe.mark
  · exact hsafe.digit c (List.all_eq_true.mp hdigits c hc)

theorem encode_encode {safe : Char → Bool} (hsafe : KeepsEscapes safe) (t : Text) :
    encode safe (encode safe t) = encode safe t :=
  encode_eq_self fun _ => safe_of_mem_encode hsafe

end TreeShell.Http.Percent
