import PayloadRules.Schema.Constraints
import PayloadRules.Schema.Kind

/-!
# Parameter bindings

A binding says under which name a field is sent, whether it must be sent, and
what else the parameter declares. It is merged into the schema of the field
before anything is compiled.

Parameter names mark an array by a pair of brackets. Brackets are no part of a
path, so the name an array is filed under has every pair removed in one pass
from left to right.
-/

namespace PayloadRules

/-- The external side of a field. -/
structure Binding where
  name : Option String := none
  location : Option String := none
  required : Option Bool := none
  description : Option String := none
  nullable : Option Bool := none
  extensions : Table Json := Table.empty
  constraints : Constraints := {}
deriving Inhabited

/-- The text without the bracket pairs met from left to right. -/
def dropBracketPairs : List Char → List Char
  | [] => []
  | '[' :: ']' :: rest => dropBracketPairs rest
  | c :: rest => c :: dropBracketPairs rest

/-- The name as a path segment of a schema of the given kind. -/
def pathName (kind : Option Kind) (name : String) : String :=
  if kind = some .array then String.ofList (dropBracketPairs name.toList) else name

/-- The binding's name as a path segment, if it has one. -/
def Binding.keyName (b : Binding) (kind : Option Kind) : Option String :=
  b.name.map (pathName kind)

end PayloadRules
