/-
  TreeShell.Http.Percent — percent escapes in URLs.

  An escape is a percent sign and two hexadecimal digits for one octet; runs of escapes
  are read as UTF-8. A percent sign without two digits stands for itself.
-/

import TreeShell.Text.Utf8

namespace TreeShell.Http.Percent

def hexDigits : Text := "0123456789ABCDEF"

def escape (octet : Nat) : Text :=
  ['%', hexDigits.getD (octet / 16) '0', hexDigits.getD (octet % 16) '0']

/-- Escapes every character but the safe ones. -/
def encode (safe : Char → Bool) (t : Text) : Text :=
  t.flatMap fun c => if safe c then [c] else (Text.Utf8.encode [c]).flatMap escape

def unreserved (c : Char) : Bool := c.isAlphanum || "_.-~".toList.contains c

/-- `octets` are those of the escapes read since the last character. -/
def decodeFrom (octets : List Nat) : Text → Text
  | [] => Text.Utf8.decode octets
  | '%' :: a :: b :: rest =>
    match Text.hexDigit? a, Text.hexDigit? b with
    | some high, some low => decodeFrom (octets ++ [16 * high + low]) rest
    | _, _ => Text.Utf8.decode octets ++ '%' :: decodeFrom [] (a :: b :: rest)
  | c :: rest => Text.Utf8.decode octets ++ c :: decodeFrom [] rest
termination_by structural t => t

def decode (t : Text) : Text := decodeFrom [] t

/-! ## Queries -/

/-- A key or value of a query: a space is written as a plus sign. -/
def encodeField (t : Text) : Text :=
  (encode (fun c => unreserved c || c == ' ') t).map fun c => if c = ' ' then '+' else c

def encodeQuery (pairs : List (Text × Text)) : Text :=
  Text.join ['&'] (pairs.map fun (key, value) => encodeField key ++ '=' :: encodeField value)

def decodeField (t : Text) : Text := decode (t.map fun c => if c = '+' then ' ' else c)

/-- Cut at the first equals sign; without one the value is empty. -/
def decodePair (piece : Text) : Text × Text :=
  match piece.span (· != '=') with
  | (key, _ :: value) => (decodeField key, decodeField value)
  | (key, []) => (decodeField key, [])

def decodeQuery (query : Text) : List (Text × Text) :=
  ((Text.splitOn '&' query).filter (· ≠ [])).map decodePair

end TreeShell.Http.Percent
