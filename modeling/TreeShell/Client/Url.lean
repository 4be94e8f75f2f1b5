/-
  TreeShell.Client.Url — the addresses that requests go to.

  A reference is split into scheme, authority, path, query and fragment, each of which may
  be missing; what may not stand in an address is escaped, and escapes that are there are
  kept. The segments `.` and `..` of a path are resolved as soon as the address has a
  scheme or an authority.

  A client has a base address, whose path ends with a slash. A reference with scheme and
  host stands by itself; of any other, path and query are put behind those of the base.
-/

import TreeShell.Client.Host
import TreeShell.Text.Blank

namespace TreeShell.Client

/-- The parts of a reference, as written. -/
structure Reference where
  scheme : Text
  authority : Text
  path : Text
  query : Option Text
  fragment : Option Text

namespace Reference

def isSchemeChar (c : Char) : Bool := c.isAlphanum || c == '+' || c == '.' || c == '-'

/-- The scheme and what follows its colon. A scheme may be empty; without a colon there is
    none. -/
def splitScheme (t : Text) : Text × Text :=
  match t.span isSchemeChar with
  | ([], ':' :: rest) => ([], rest)
  | (c :: scheme, ':' :: rest) => if c.isAlpha then (c :: scheme, rest) else ([], t)
  | _ => ([], t)

def splitAuthority (t : Text) : Text × Text :=
  match t with
  | '/' :: '/' :: rest => rest.span fun c => c != '/' && c != '?' && c != '#'
  | _ => ([], t)

/-- What stands before the first `mark`, and what behind it if there is one. -/
def cutAt (mark : Char) (t : Text) : Text × Option Text :=
  match t.span (· != mark) with
  | (before, _ :: behind) => (before, some behind)
  | (before, []) => (before, none)

def parse (t : Text) : Reference :=
  let (t, fragment) := cutAt '#' t
  let (scheme, t) := splitScheme t
  let (authority, t) := splitAuthority t
  let (path, query) := cutAt '?' t
  ⟨scheme, authority, path, query, fragment⟩

end Reference

/-- The parts of an address, escaped. -/
structure Url where
  scheme : Text
  user : Text
  host : Text
  port : Option Int
  path : Text
  query : Option Text
  fragment : Option Text

namespace Url

/-! ## Characters -/

def isControl (c : Char) : Bool := c.toNat < 0x20 || c.toNat = 0x7F

/-- The characters that stand for themselves in every part. -/
def plain (c : Char) : Bool := 0x20 < c.toNat && c.toNat < 0x7F && !"\"#<>".toList.contains c

def inQuery : Char → Bool := plain

def inPath (c : Char) : Bool := plain c && !"?`\x7b\x7d".toList.contains c

def inUser (c : Char) : Bool := inPath c && !"/;=@[\\]^|".toList.contains c

def inFragment (c : Char) : Bool := c == '#' || (plain c && c != '`')

/-! ## Authorities -/

structure Authority where
  user : Text
  host : Text
  port : Text

/-- What stands before the last `@`, and what behind it. -/
def splitUser (t : Text) : Text × Text :=
  if t.contains '@' then
    let behind := (t.reverse.takeWhile (· != '@')).reverse
    (t.take (t.length - behind.length - 1), behind)
  else ([], t)

/-- A host in square brackets ends with the last bracket, any other before a colon. -/
def splitHost (t : Text) : Text × Text :=
  if t.head? = some '[' && t.contains ']' then
    let behind := (t.reverse.takeWhile (· != ']')).reverse
    (t.take (t.length - behind.length), behind)
  else t.span (· != ':')

def Authority.parse (t : Text) : Authority :=
  let (user, rest) := splitUser t
  let (host, port) := splitHost rest
  ⟨user, host, match port with
    | ':' :: port => port
    | port => port⟩

/-- Digits with single underscores between them. -/
def grouped? (t : Text) : Option Nat :=
  let groups := Text.splitOn '_' t
  if groups.all Text.isNumeral && groups.flatten.length ≤ 4300 then some (Text.natural groups.flatten)
  else none

/-- A port is an integer, with an optional sign and blanks around it. -/
def number? (t : Text) : Option Int :=
  match Text.trim t with
  | '-' :: digits => (grouped? digits).map fun n => -(n : Int)
  | '+' :: digits => (grouped? digits).map Int.ofNat
  | digits => (grouped? digits).map Int.ofNat

/-- An empty port is none. -/
def port? (t : Text) : Option (Option Int) := if t = [] then some none else (number? t).map some

/-! ## Paths -/

/-- One step of resolving segments; `kept` holds those before, the last one first. -/
def resolveSegment (kept : List Text) (segment : Text) : List Text :=
  if segment = ['.'] then kept
  else if segment = ['.', '.'] then if kept = [[]] then kept else kept.drop 1
  else segment :: kept

def resolveDots (path : Text) : Text :=
  Text.join ['/'] ((Text.splitOn '/' path).foldl resolveSegment []).reverse

/-! ## Addresses -/

/-- The address of a reference. A path without scheme and authority before it starts with
    neither two slashes nor a colon. -/
def ofReference (r : Reference) : Option Url := do
  let authority := Authority.parse r.authority
  let host ← Host.normalize? authority.host
  let port ← port? authority.port
  let user := Http.Percent.encode inUser authority.user
  let anchored := r.scheme ≠ [] || user ≠ [] || host ≠ [] || port.isSome
  if !anchored && (Text.startsWith "//" r.path || Text.startsWith ":" r.path) then none
  else
    some {
      scheme := r.scheme.map Char.toLower
      user
      host
      port
      path := Http.Percent.encode inPath (if anchored then resolveDots r.path else r.path)
      query := r.query.map (Http.Percent.encode inQuery)
      fragment := r.fragment.map (Http.Percent.encode inFragment) }

def maxLength : Nat := 65536

def isShort (t : Text) : Bool := t.length ≤ maxLength

def parse (t : Text) : Option Url :=
  if isShort t && !t.any isControl then ofReference (Reference.parse t) else none

/-- The authority as text; a host with colons stands in brackets. -/
def authority (u : Url) : Text :=
  (if u.user = [] then [] else u.user ++ ['@']) ++
    (if u.host.contains ':' then '[' :: u.host ++ [']'] else u.host) ++
    match u.port with
    | some n => ':' :: Text.ofInt n
    | none => []

/-- Path and query together; an empty path is the root. -/
def target (u : Url) : Text :=
  (if u.path = [] then ['/'] else u.path) ++
    match u.query with
    | some query => '?' :: query
    | none => []

def toText (u : Url) : Text :=
  (if u.scheme = [] then [] else u.scheme ++ [':']) ++
    (if u.authority = [] then [] else '/' :: '/' :: u.authority) ++ u.path ++
    (match u.query with
      | some query => '?' :: query
      | none => []) ++
    match u.fragment with
    | some fragment => '#' :: fragment
    | none => []

/-- The same address with another path and query. -/
def withPath (u : Url) (path : Text) (query : Option Text) : Option Url :=
  let parts := [u.authority, path, query.getD [], u.fragment.getD []]
  if parts.all isShort then ofReference ⟨u.scheme, u.authority, path, query, u.fragment⟩ else none

def withTarget (u : Url) (target : Text) : Option Url :=
  let (path, query) := Reference.cutAt '?' target
  u.withPath path query

def withQuery (u : Url) (query : Option Text) : Option Url := u.withPath u.path query

def endsWithSlash (t : Text) : Bool := t.getLast? == some '/'

/-- A base address. -/
def base? (t : Text) : Option Url := do
  let u ← parse t
  if endsWithSlash u.target then some u else u.withTarget (u.target ++ ['/'])

/-- Whether it stands by itself. -/
def isAbsolute (u : Url) : Bool := u.scheme ≠ [] && u.host ≠ []

/-- The address that a reference means to a client of this base. -/
def resolve (base : Url) (reference : Text) : Option Url := do
  let u ← parse reference
  if u.isAbsolute then some u
  else base.withTarget (base.target ++ u.target.dropWhile (· == '/'))

/-! ## What an address says -/

def decodedPath (u : Url) : Text := Http.Percent.decode (if u.path = [] then ['/'] else u.path)

/-- Pairs with one key together, at the first one's place. -/
def gather (pairs : List (Text × Text)) : List (Text × Text) :=
  (pairs.map Prod.fst).eraseDups.flatMap fun key => pairs.filter fun pair => pair.1 == key

def decodedQuery (u : Url) : List (Text × Text) :=
  gather ((u.query.map Http.Percent.decodeQuery).getD [])

end Url

end TreeShell.Client
