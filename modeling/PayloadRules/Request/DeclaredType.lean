import PayloadRules.Text.Blank

/-!
# Declared types

The static type of a field is a name with a question mark in front when the
field accepts null. Blanks around the text and after the question mark do not
count. A text without a name declares nothing.
-/

namespace PayloadRules

/-- A type name and whether null is accepted. -/
structure DeclaredType where
  typeName : String
  nullable : Bool
deriving DecidableEq, Repr

/-- A declaration without a name; the text is the one left after trimming. -/
inductive DeclaredTypeError where
  | empty (text : String)
deriving DecidableEq, Repr

def DeclaredTypeError.message : DeclaredTypeError → String
  | empty text => "empty type declaration: '" ++ text ++ "'"

namespace DeclaredType

/-- Splits a trimmed declaration into its mark and its name. -/
def split : List Char → Bool × List Char
  | '?' :: rest => (true, Text.trim rest)
  | name => (false, name)

/-- The type that a text declares. -/
def parse (text : String) : Except DeclaredTypeError DeclaredType :=
  let trimmed := Text.trim text.toList
  let (nullable, name) := split trimmed
  if name.isEmpty then .error (.empty (String.ofList trimmed))
  else .ok ⟨String.ofList name, nullable⟩

/-- The declaration as it is written. -/
def text (t : DeclaredType) : String := if t.nullable then "?" ++ t.typeName else t.typeName

def isArray (t : DeclaredType) : Bool := t.typeName = "array"

end DeclaredType

end PayloadRules
