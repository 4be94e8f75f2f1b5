/-
  TreeShell.Environment.Schema — environments from JSON values.
-/

import TreeShell.Environment
import TreeShell.Schema

namespace TreeShell

open Schema

/-- Of several pairs with one name the last counts, at the first one's place. -/
def Environment.ofPairs (pairs : List (Text × Json)) : Checked Environment :=
  (fun bindings => ⟨OrderedMap.ofList bindings⟩) <$>
    Checked.under (.key "variables") (entries text (OrderedMap.ofList pairs).entries)

end TreeShell
