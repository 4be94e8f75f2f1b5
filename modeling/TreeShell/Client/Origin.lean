/-
  TreeShell.Client.Origin — where an answer came from.

  An answer is taken only if the text of its address tells how and where it was reached:
  something other than a slash stands before the first colon, and brackets in the place
  come in pairs around an address of eight groups or of a kind yet to be defined. The
  text is read afresh: two slashes at the start of a path open a place here, although
  the address has none.
-/

import TreeShell.Client.Url
import TreeShell.Text.Quoted

namespace TreeShell.Client.Origin

inductive Fault where
  | untyped (address : Text)
  | unpaired
  | notAnAddress (inside : Text)
  | fourOctets
  | undefined
  deriving DecidableEq

def Fault.message : Fault → Text
  | .untyped address => "unknown url type: " ++ Text.quoted address
  | .unpaired => "Invalid IPv6 URL"
  | .notAnAddress inside => Text.quoted inside ++ " does not appear to be an IPv4 or IPv6 address"
  | .fourOctets => "An IPv4 address cannot be in brackets"
  | .undefined => "IPvFuture address is invalid"

/-- The address without a word that only says that it is one, and without the mark of a
    fragment that ends it. -/
def shown (u : Url) : Text :=
  let t := u.toText
  let t := if Text.startsWith "URL:" t then t.drop 4 else t
  if t.getLast? = some '#' then t.dropLast else t

/-- What stands before the last mark of a fragment. -/
def withoutFragment (t : Text) : Text :=
  if t.contains '#' then ((t.reverse.dropWhile (· != '#')).drop 1).reverse else t

/-- Whether a colon comes before any slash, and not at the start; fragments do not count. -/
def isTyped (t : Text) : Bool :=
  match (withoutFragment t).span fun c => c != '/' && c != ':' with
  | (_ :: _, ':' :: _) => true
  | _ => false

/-- What stands between two slashes behind the scheme and the next part. -/
def place (t : Text) : Text := (Reference.splitAuthority (Reference.splitScheme t).2).1

/-- The letter `v`, a number of base sixteen, a point and something more. -/
def isFuture (t : Text) : Bool :=
  match (t.drop 1).span fun c => (Text.hexDigit? c).isSome with
  | (_ :: _, '.' :: _ :: _) => true
  | _ => false

def checkInside (inside : Text) : Except Fault Unit :=
  if inside.head? = some 'v' then if isFuture inside then .ok () else .error .undefined
  else if Host.isFourOctets inside then .error .fourOctets
  else if Host.isEightGroups inside then .ok ()
  else .error (.notAnAddress inside)

/-- Brackets stand in pairs; what counts is between the first opening one and the next
    closing one, or the end. -/
def checkPlace (t : Text) : Except Fault Unit :=
  if t.contains '[' != t.contains ']' then .error .unpaired
  else if t.contains '[' then
    checkInside (((t.dropWhile (· != '[')).drop 1).takeWhile (· != ']'))
  else .ok ()

def check (u : Url) : Except Fault Unit :=
  let t := shown u
  if isTyped t then checkPlace (place t) else .error (.untyped t)

end TreeShell.Client.Origin
