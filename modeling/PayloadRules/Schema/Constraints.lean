import PayloadRules.Json.Basic

/-!
# Constraints

The bounds a schema or a binding may set on a value, each of them optional. Two
sets of constraints combine bound by bound: what is set stays, what is unset is
filled.
-/

namespace PayloadRules

/-- The allowed values of a field: the cases of a named type, or a list. -/
inductive Enumeration where
  | typeRef (name : String)
  | values (items : List Json)

/-- Bounds on size, length, count, choice and spelling. -/
structure Constraints where
  minimum : Option Number := none
  maximum : Option Number := none
  minLength : Option Nat := none
  maxLength : Option Nat := none
  minItems : Option Nat := none
  maxItems : Option Nat := none
  enumeration : Option Enumeration := none
  pattern : Option String := none
deriving Inhabited

namespace Constraints

/-- The bounds of `c`, and those of `other` where `c` sets none. -/
def fillFrom (c other : Constraints) : Constraints where
  minimum := c.minimum <|> other.minimum
  maximum := c.maximum <|> other.maximum
  minLength := c.minLength <|> other.minLength
  maxLength := c.maxLength <|> other.maxLength
  minItems := c.minItems <|> other.minItems
  maxItems := c.maxItems <|> other.maxItems
  enumeration := c.enumeration <|> other.enumeration
  pattern := c.pattern <|> other.pattern

end Constraints

end PayloadRules
