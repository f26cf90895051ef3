/-!
# Kinds

The kind of a schema is what a payload value must be. A schema without a kind is
untyped and gets no type rule.
-/

namespace PayloadRules

/-- What a payload value must be. -/
inductive Kind where
  | string
  | number
  | integer
  | boolean
  | array
  | object
deriving DecidableEq, Repr

namespace Kind

/-- Every kind. -/
def all : List Kind := [.string, .number, .integer, .boolean, .array, .object]

/-- The name a schema writes. -/
def name : Kind → String
  | .string => "string"
  | .number => "number"
  | .integer => "integer"
  | .boolean => "boolean"
  | .array => "array"
  | .object => "object"

/-- The kind of a name, in exactly this spelling. -/
def ofName? (name : String) : Option Kind := all.find? fun k => k.name = name

/-- Arrays and objects. -/
def isContainer (k : Kind) : Bool := k = .array ∨ k = .object

end Kind

end PayloadRules
