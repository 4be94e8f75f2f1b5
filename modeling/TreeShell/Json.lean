/-
  TreeShell.Json — JSON values.

  Integers are exact and distinct from doubles. The fields of an object keep their order,
  and the reader leaves each key once. Doubles that are not finite have no JSON text: a
  value that holds one cannot be sent, and is kept with a null in its place.
-/

import TreeShell.OrderedMap

namespace TreeShell

inductive Json where
  | null
  | bool (b : Bool)
  | int (n : Int)
  | float (x : Float)
  | str (s : Text)
  | arr (items : List Json)
  | obj (fields : List (Text × Json))
  deriving Inhabited

namespace Json

def texts (items : List Text) : Json := arr (items.map str)

def opt (s : Option Text) : Json := (s.map str).getD null

/-- The value of a field of an object. -/
def get? (fields : List (Text × Json)) (name : Text) : Option Json := OrderedMap.find name fields

def isNull : Json → Bool
  | null => true
  | _ => false

/-- Null, false, zero and what is empty count as nothing. -/
def isNothing : Json → Bool
  | null => true
  | bool b => !b
  | int n => n == 0
  | float x => x == 0.0
  | str s => s == []
  | arr items => items.isEmpty
  | obj fields => fields.isEmpty

/-! ## Finite values -/

mutual

def allFinite : Json → Bool
  | float x => x.isFinite
  | arr items => allFiniteItems items
  | obj fields => allFiniteFields fields
  | _ => true

def allFiniteItems : List Json → Bool
  | [] => true
  | x :: xs => allFinite x && allFiniteItems xs

def allFiniteFields : List (Text × Json) → Bool
  | [] => true
  | (_, x) :: rest => allFinite x && allFiniteFields rest

end

/-- Why a value that is not finite cannot be sent. -/
def notFinite : Text := "Out of range float values are not JSON compliant"

mutual

/-- The value with a null for each double that is not finite. -/
def finitePart : Json → Json
  | float x => if x.isFinite then float x else null
  | arr items => arr (finitePartItems items)
  | obj fields => obj (finitePartFields fields)
  | x => x

def finitePartItems : List Json → List Json
  | [] => []
  | x :: xs => finitePart x :: finitePartItems xs

def finitePartFields : List (Text × Json) → List (Text × Json)
  | [] => []
  | (key, x) :: rest => (key, finitePart x) :: finitePartFields rest

end

end Json

end TreeShell
