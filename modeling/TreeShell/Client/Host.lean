/-
  TreeShell.Client.Host — the hosts that an address may name.

  Four numbers are an address of four octets and have to be one; what stands in square
  brackets has to be an address of eight groups. Any other host is a name: in ASCII any
  characters will do, else the labels between its dots are made of the letters and digits
  of the world's scripts and of inner hyphens, and are kept in ASCII.
-/

import TreeShell.Client.Host.Label
import TreeShell.Client.Host.Small
import TreeShell.Http.Percent

namespace TreeShell.Client.Host

/-! ## Four octets -/

/-- A number up to 255 without leading zeros. -/
def isOctet (t : Text) : Bool :=
  Text.isNumeral t && t.length ≤ 3 && (t.length = 1 || t.head? ≠ some '0') && Text.natural t ≤ 255

def isFourOctets (t : Text) : Bool :=
  let parts := Text.splitOn '.' t
  parts.length = 4 && parts.all isOctet

/-- Whether the text is made of runs of digits with one character between each two, `left`
    of them still to come; `started` tells that the run at the start has a digit before. -/
def isRuns (left : Nat) (started : Bool) : Text → Bool
  | [] => started && left = 0
  | c :: rest =>
    (c.isDigit && isRuns left true rest) || (started && 0 < left && isRuns (left - 1) false rest)

/-- Whether it has the look of an address of four octets, whatever stands between them. -/
def looksNumeric (t : Text) : Bool := isRuns 3 false t

/-! ## Eight groups -/

def isGroup (t : Text) : Bool := t ≠ [] && t.length ≤ 4 && t.all fun c => (Text.hexDigit? c).isSome

/-- The groups at one end of an omission. An empty one at the outer end is the omission's. -/
def outer (groups : List Text) : List Text := if groups = [[]] then [] else groups

/-- Whether the pieces between colons are eight groups, or fewer around one omission. -/
def isGroups (pieces : List Text) : Bool :=
  let inner := (pieces.drop 1).dropLast
  match inner.findIdx? (· = []) with
  | none => pieces.length = 8 && pieces.all isGroup
  | some i =>
    let groups := outer (pieces.take (i + 1)) ++ outer (pieces.drop (i + 2))
    groups.length < 8 && groups.all isGroup

/-- The pieces between the colons, four octets at the end as two groups. -/
def pieces? (t : Text) : Option (List Text) :=
  let pieces := Text.splitOn ':' t
  match pieces.getLast? with
  | some last =>
    if last.contains '.' then
      if isFourOctets last then some (pieces.dropLast ++ [['0'], ['0']]) else none
    else some pieces
  | none => none

/-- Eight groups, and a name for the network behind a percent sign. -/
def isEightGroups (t : Text) : Bool :=
  let (address, scope) := t.span (· != '%')
  let named := match scope with
    | _ :: name => name ≠ [] && !name.contains '%'
    | [] => true
  named && 3 ≤ (Text.splitOn ':' address).length && (pieces? address).any isGroups

/-! ## Names -/

/-- The signs that a name in ASCII keeps beside letters and digits. -/
def nameSigns : Text := "!$&'()*+,;=\"`\x7b\x7d%|\\"

def isDot (c : Char) : Bool := ['.', '\u3002', '\uff0e', '\uff61'].contains c

/-- A name has at most so many characters, and a dot at the end. -/
def maxName : Nat := 253

/-- The labels between the dots, of which one may follow the last, joined again. -/
def name? (t : Text) : Option Text := do
  let labels := Text.splitOn '.' (t.map fun c => if isDot c then '.' else c)
  let closed := 1 < labels.length && labels.getLast? = some []
  let written := Text.join ['.'] (← (if closed then labels.dropLast else labels).mapM label?)
  if maxName < written.length then none else some (if closed then written ++ ['.'] else written)

/-- The host as addresses keep it; nothing if there is no such host. -/
def normalize? (host : Text) : Option Text :=
  if looksNumeric host then if isFourOctets host then some host else none
  else if host.head? = some '[' && host.getLast? = some ']' then
    let inside := (host.drop 1).dropLast
    if isEightGroups inside then some inside else none
  else
    let name := small host
    if isAscii host then
      some (Http.Percent.encode (fun c => Http.Percent.unreserved c || nameSigns.contains c) name)
    else name? name

example : normalize? "[::1]" = some "::1".toList := by decide

example : normalize? "1.2.3.999" = none := by decide

example : normalize? "bücher.de" = some "xn--bcher-kva.de".toList := by decide +kernel

end TreeShell.Client.Host
