/-
  TreeShell.Text.Utf8 — text as octets and back.

  What is no character is replaced: each octet that cannot start or continue one, and an
  incomplete character once, however many of its octets are there.
-/

import TreeShell.Text

namespace TreeShell.Text.Utf8

/-- The octets of one character. -/
def encodeChar (c : Char) : List Nat :=
  let n := c.toNat
  let tail (shift : Nat) := 0x80 + n / shift % 0x40
  if n < 0x80 then [n]
  else if n < 0x800 then [0xC0 + n / 0x40, tail 1]
  else if n < 0x10000 then [0xE0 + n / 0x1000, tail 0x40, tail 1]
  else [0xF0 + n / 0x40000, tail 0x1000, tail 0x40, tail 1]

def encode (t : Text) : List Nat := t.flatMap encodeChar

def replacement : Char := '\uFFFD'

def isTail (b : Nat) : Bool := 0x80 ≤ b && b ≤ 0xBF

/-- The second octets that may follow the first octet of three or four. -/
def secondRange (first : Nat) : Nat × Nat :=
  if first = 0xE0 then (0xA0, 0xBF)
  else if first = 0xED then (0x80, 0x9F)
  else if first = 0xF0 then (0x90, 0xBF)
  else if first = 0xF4 then (0x80, 0x8F)
  else (0x80, 0xBF)

def isSecond (first b : Nat) : Bool := (secondRange first).1 ≤ b && b ≤ (secondRange first).2

def char2 (a b : Nat) : Char := Char.ofNat ((a - 0xC0) * 0x40 + (b - 0x80))

def char3 (a b c : Nat) : Char :=
  Char.ofNat (((a - 0xE0) * 0x40 + (b - 0x80)) * 0x40 + (c - 0x80))

def char4 (a b c d : Nat) : Char :=
  Char.ofNat ((((a - 0xF0) * 0x40 + (b - 0x80)) * 0x40 + (c - 0x80)) * 0x40 + (d - 0x80))

def decode : List Nat → Text
  | [] => []
  | a :: rest =>
    if a < 0x80 then Char.ofNat a :: decode rest
    else if 0xC2 ≤ a && a ≤ 0xDF then
      match rest with
      | b :: rest' => if isTail b then char2 a b :: decode rest' else replacement :: decode (b :: rest')
      | [] => [replacement]
    else if 0xE0 ≤ a && a ≤ 0xEF then
      match rest with
      | b :: rest' =>
        if isSecond a b then
          match rest' with
          | c :: rest'' =>
            if isTail c then char3 a b c :: decode rest'' else replacement :: decode (c :: rest'')
          | [] => [replacement]
        else replacement :: decode (b :: rest')
      | [] => [replacement]
    else if 0xF0 ≤ a && a ≤ 0xF4 then
      match rest with
      | b :: rest' =>
        if isSecond a b then
          match rest' with
          | c :: rest'' =>
            if isTail c then
              match rest'' with
              | d :: rest''' =>
                if isTail d then char4 a b c d :: decode rest'''
                else replacement :: decode (d :: rest''')
              | [] => [replacement]
            else replacement :: decode (c :: rest'')
          | [] => [replacement]
        else replacement :: decode (b :: rest')
      | [] => [replacement]
    else replacement :: decode rest
termination_by structural octets => octets

example : decode (encode "aé日😀") = "aé日😀" := by decide +kernel

end TreeShell.Text.Utf8
