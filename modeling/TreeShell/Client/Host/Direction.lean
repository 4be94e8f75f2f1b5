/-
  TreeShell.Client.Host.Direction — names written from right to left.

  A label without a character of a script that runs to the left may be any. With one, the
  label has to run in one direction: its first letter gives it, no letter of the other
  direction is in it, and it ends with a letter or a number, marks aside. Numbers of the
  Arabic kind stand only in labels that run to the left, and not beside others there.
-/

import TreeShell.Client.Host.Marks

namespace TreeShell.Client.Host

inductive Direction where
  | right
  | left
  | number
  | arabicNumber
  | mark
  | neutral
  deriving DecidableEq

def leftRanges : List (Nat × Nat) :=
  [(0x5D0, 0x5F4), (0x620, 0x64A), (0x66E, 0x66F), (0x671, 0x6D5), (0x6E5, 0x6E6), (0x6EE, 0x6EF),
   (0x6FA, 0x710), (0x712, 0x72F), (0x74D, 0x7A5), (0x7B1, 0x7EA), (0x7F4, 0x7F5), (0x800, 0x815),
   (0x81A, 0x81A), (0x824, 0x824), (0x828, 0x828), (0x840, 0x858), (0x860, 0x88E), (0x8A0, 0x8C9),
   (0xFE73, 0xFE73), (0x10800, 0x10A00), (0x10A10, 0x10A35), (0x10A60, 0x10AE4),
   (0x10B00, 0x10D23), (0x10E80, 0x10EA9), (0x10EB0, 0x10F45), (0x10F70, 0x10F81),
   (0x10FB0, 0x10FF6), (0x1E800, 0x1E8C4), (0x1E922, 0x1E943), (0x1E94B, 0x1E959)]

def arabicNumberRanges : List (Nat × Nat) :=
  [(0x660, 0x669), (0x10D30, 0x10D39)]

def numberRanges : List (Nat × Nat) :=
  [(0x30, 0x39), (0x6F0, 0x6F9)]

def neutralRanges : List (Nat × Nat) :=
  [(0x2D, 0x2D), (0xB7, 0xB7), (0x2B9, 0x2BA), (0x2C6, 0x2CF), (0x2EC, 0x2EC), (0x375, 0x375),
   (0x200C, 0x200D), (0x2E2F, 0x2E2F), (0x30FB, 0x30FB), (0xA67F, 0xA67F), (0xA717, 0xA71F),
   (0xA788, 0xA788)]

def direction (c : Char) : Direction :=
  if inRanges c arabicNumberRanges then .arabicNumber
  else if inRanges c numberRanges then .number
  else if inRanges c neutralRanges then .neutral
  else if isNonspacing c then .mark
  else if inRanges c leftRanges then .left
  else .right

/-- The last direction that is not a mark's is one of `ends`. -/
def endsIn (ends directions : List Direction) : Bool :=
  ((directions.reverse.dropWhile (· = .mark)).head?).any ends.contains

def runsOneWay (label : Text) : Bool :=
  let directions := label.map direction
  if !directions.any [.left, .arabicNumber].contains then true
  else
    match directions.head? with
    | some .left =>
      !directions.contains .right && endsIn [.left, .number, .arabicNumber] directions &&
        !(directions.contains .number && directions.contains .arabicNumber)
    | some .right =>
      !directions.any [.left, .arabicNumber].contains && endsIn [.right, .number] directions
    | _ => false

example : runsOneWay "שלום".toList = true ∧ runsOneWay "1א".toList = false := by decide +kernel

end TreeShell.Client.Host
