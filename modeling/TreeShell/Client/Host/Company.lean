/-
  TreeShell.Client.Host.Company — the signs that a name holds only beside certain letters.

  A joiner stands behind a mark that takes the vowel from a letter. The sign that keeps
  letters apart stands there too, or between two letters that would join. The middle dot
  stands between two l; the Greek numeral sign before a Greek letter; the Hebrew signs
  behind a Hebrew letter; the middle dot of Japanese in a label with a Japanese letter;
  and Arabic digits of the two kinds not in one label. The ranges run over characters
  that no name holds.
-/

import TreeShell.Client.Host.Marks

namespace TreeShell.Client.Host

/-! ## Letters that join -/

/-- Letters that join the letter before them only. -/
def joinsBeforeRanges : List (Nat × Nat) :=
  [(0x622, 0x625), (0x627, 0x627), (0x629, 0x629), (0x62F, 0x632), (0x648, 0x648), (0x671, 0x673),
   (0x688, 0x699), (0x6C0, 0x6C0), (0x6C3, 0x6CB), (0x6CD, 0x6CD), (0x6CF, 0x6CF), (0x6D2, 0x6D5),
   (0x6EE, 0x6EF), (0x710, 0x710), (0x715, 0x719), (0x71E, 0x71E), (0x728, 0x728), (0x72A, 0x72A),
   (0x72C, 0x72C), (0x72F, 0x72F), (0x74D, 0x74D), (0x759, 0x75B), (0x76B, 0x76C), (0x771, 0x771),
   (0x773, 0x774), (0x778, 0x779), (0x840, 0x840), (0x846, 0x847), (0x849, 0x849), (0x854, 0x854),
   (0x856, 0x858), (0x867, 0x867), (0x869, 0x882), (0x88E, 0x88E), (0x8AA, 0x8AC), (0x8AE, 0x8AE),
   (0x8B1, 0x8B2), (0x8B9, 0x8B9), (0x10AC5, 0x10AC5), (0x10AC7, 0x10ACA), (0x10ACE, 0x10AD2),
   (0x10ADD, 0x10ADD), (0x10AE1, 0x10AE1), (0x10AE4, 0x10AE4), (0x10B81, 0x10B81),
   (0x10B83, 0x10B85), (0x10B89, 0x10B89), (0x10B8C, 0x10B8C), (0x10B8E, 0x10B8F),
   (0x10B91, 0x10B91), (0x10D22, 0x10D22), (0x10F33, 0x10F33), (0x10F74, 0x10F75),
   (0x10FB4, 0x10FB6), (0x10FB9, 0x10FBA), (0x10FBD, 0x10FBD), (0x10FC2, 0x10FC3)]

/-- Letters that join on both sides. -/
def joinsBothRanges : List (Nat × Nat) :=
  [(0x620, 0x620), (0x626, 0x626), (0x628, 0x628), (0x62A, 0x62E), (0x633, 0x647), (0x649, 0x64A),
   (0x66E, 0x66F), (0x679, 0x687), (0x69A, 0x6BF), (0x6C1, 0x6C2), (0x6CC, 0x6CC), (0x6CE, 0x6CE),
   (0x6D0, 0x6D1), (0x6FA, 0x6FC), (0x6FF, 0x6FF), (0x712, 0x714), (0x71A, 0x71D), (0x71F, 0x727),
   (0x729, 0x729), (0x72B, 0x72B), (0x72D, 0x72E), (0x74E, 0x758), (0x75C, 0x76A), (0x76D, 0x770),
   (0x772, 0x772), (0x775, 0x777), (0x77A, 0x77F), (0x7CA, 0x7EA), (0x841, 0x845), (0x848, 0x848),
   (0x84A, 0x853), (0x855, 0x855), (0x860, 0x860), (0x862, 0x865), (0x868, 0x868), (0x886, 0x886),
   (0x889, 0x88D), (0x8A0, 0x8A9), (0x8AF, 0x8B0), (0x8B3, 0x8B8), (0x8BA, 0x8C8),
   (0x1820, 0x1878), (0x1887, 0x18A8), (0x18AA, 0x18AA), (0xA840, 0xA871), (0x10AC0, 0x10AC4),
   (0x10AD3, 0x10AD6), (0x10AD8, 0x10ADC), (0x10ADE, 0x10AE0), (0x10B80, 0x10B80),
   (0x10B82, 0x10B82), (0x10B86, 0x10B88), (0x10B8A, 0x10B8B), (0x10B8D, 0x10B8D),
   (0x10B90, 0x10B90), (0x10D01, 0x10D21), (0x10D23, 0x10D23), (0x10F30, 0x10F32),
   (0x10F34, 0x10F44), (0x10F70, 0x10F73), (0x10F76, 0x10F81), (0x10FB0, 0x10FB0),
   (0x10FB2, 0x10FB3), (0x10FB8, 0x10FB8), (0x10FBB, 0x10FBC), (0x10FBE, 0x10FBF),
   (0x10FC1, 0x10FC1), (0x10FC4, 0x10FC4), (0x1E922, 0x1E943)]

/-- Letters that join the letter behind them only. -/
def joinsBehindRanges : List (Nat × Nat) :=
  [(0xA872, 0xA872), (0x10ACD, 0x10ACD), (0x10AD7, 0x10AD7), (0x10D00, 0x10D00)]

/-- What letters join across, apart from marks without room. -/
def acrossRanges : List (Nat × Nat) :=
  [(0xCBF, 0xCBF), (0xCC6, 0xCC6), (0x11A07, 0x11A08), (0x11C3F, 0x11C3F), (0x1E94B, 0x1E94B)]

/-- The nonspacing mark that letters do not join across. -/
def barrier : Char := Char.ofNat 0x1171E

def isAcross (c : Char) : Bool := (isNonspacing c && c ≠ barrier) || inRanges c acrossRanges

def joinsBehind (c : Char) : Bool := inRanges c joinsBothRanges || inRanges c joinsBehindRanges

def joinsBefore (c : Char) : Bool := inRanges c joinsBothRanges || inRanges c joinsBeforeRanges

/-! ## Scripts -/

def greekRanges : List (Nat × Nat) :=
  [(0x371, 0x3E1), (0x3F3, 0x3FC), (0x1D26, 0x1D2A), (0x1F00, 0x1FF6), (0xAB65, 0xAB65)]

def hebrewRanges : List (Nat × Nat) :=
  [(0x591, 0x5F4), (0xFB1E, 0xFB1E)]

def japaneseRanges : List (Nat × Nat) :=
  [(0x3005, 0x3005), (0x3007, 0x3007), (0x3041, 0x3096), (0x309D, 0x30FA), (0x30FD, 0x30FE),
   (0x31F0, 0x9FFF), (0xFA0E, 0xFA29), (0x16FE3, 0x16FE3), (0x16FF0, 0x16FF1), (0x1AFF0, 0x1B167),
   (0x20000, 0x3134A)]

/-! ## Company -/

/-- Whether the sign may stand between `before`, the nearest character first, and `behind`. -/
def inCompany (before : Text) (sign : Char) (behind : Text) : Bool :=
  let afterVirama := before.head?.any fun c => markClass c = viramaClass
  let elsewhere (p : Char → Bool) := before.any p || behind.any p
  if sign = '\u200d' then afterVirama
  else if sign = '\u200c' then
    afterVirama ||
      (((before.dropWhile isAcross).head?.any joinsBehind) &&
        ((behind.dropWhile isAcross).head?.any joinsBefore))
  else if sign = '\u00b7' then before.head? = some 'l' && behind.head? = some 'l'
  else if sign = '\u0375' then behind.head?.any (inRanges · greekRanges)
  else if sign = '\u05f3' || sign = '\u05f4' then before.head?.any (inRanges · hebrewRanges)
  else if sign = '\u30fb' then elsewhere (inRanges · japaneseRanges)
  else if '\u0660' ≤ sign && sign ≤ '\u0669' then !elsewhere fun c => '\u06f0' ≤ c && c ≤ '\u06f9'
  else if '\u06f0' ≤ sign && sign ≤ '\u06f9' then !elsewhere fun c => '\u0660' ≤ c && c ≤ '\u0669'
  else false

end TreeShell.Client.Host
