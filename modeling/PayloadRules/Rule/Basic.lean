import PayloadRules.Json.Printer
import PayloadRules.Text.Quoted

/-!
# Rules

A rule is one directive for a payload validator. Every rule has a text, which is
what a rule set is written as. Rule objects bring a check of their own and are
written as their name; named rules are passed through to the validator.

The operand of `in` is a list of quoted fields, one per allowed value: a string
stands for itself and any other value for its compact JSON text.
-/

namespace PayloadRules

/-- A type that the validator knows. -/
inductive BaseType where
  | string
  | numeric
  | integer
  | boolean
  | array
  | file
deriving DecidableEq, Repr

namespace BaseType

def all : List BaseType := [.string, .numeric, .integer, .boolean, .array, .file]

def name : BaseType → String
  | .string => "string"
  | .numeric => "numeric"
  | .integer => "integer"
  | .boolean => "boolean"
  | .array => "array"
  | .file => "file"

def ofName? (name : String) : Option BaseType := all.find? fun t => t.name = name

end BaseType

/-- A check with a name. -/
structure RuleObject where
  name : String
  accepts : Json → Bool

namespace RuleObject

/-- Accepts integers only, where the type `integer` alone lets numeric strings
pass. -/
def integerGuard : RuleObject where
  name := "integer_guard"
  accepts
    | .num (.int _) => true
    | _ => false

/-- Rule objects are told apart by name. -/
def same (a b : RuleObject) : Bool := a.name = b.name

end RuleObject

/-- One directive for the validator. -/
inductive Rule where
  | nullable
  | present
  | required
  /-- Required where the field with this key is present. -/
  | requiredWith (key : String)
  | type (base : BaseType)
  | dateFormat (layout : String)
  | mimes (types : String)
  /-- The whole operand, delimiters included. -/
  | regex (operand : String)
  | max (bound : Number)
  | min (bound : Number)
  /-- A case of the named type. -/
  | case (typeName : String)
  | oneOf (values : List Json)
  | object (check : RuleObject)
  | named (id : String)

namespace Rule

/-- The text that stands for an allowed value. -/
def rawText : Json → List Char
  | .str s => s.toList
  | v => v.compactChars

/-- The text of a rule. -/
def text : Rule → String
  | nullable => "nullable"
  | present => "present"
  | required => "required"
  | requiredWith key => "required_with:" ++ key
  | type base => base.name
  | dateFormat layout => "date_format:" ++ layout
  | mimes types => "mimes:" ++ types
  | regex operand => "regex:" ++ operand
  | max bound => "max:" ++ String.ofList (Json.numberText bound)
  | min bound => "min:" ++ String.ofList (Json.numberText bound)
  | case typeName => "enum:" ++ typeName
  | oneOf values => "in:" ++ String.ofList (Text.writeFields (values.map rawText))
  | object check => check.name
  | named id => id

/-- Same kind of rule with the same operand. Numbers, allowed values and rule
objects have their own notion of sameness. -/
def same : Rule → Rule → Bool
  | nullable, nullable => true
  | present, present => true
  | required, required => true
  | requiredWith a, requiredWith b => a = b
  | type a, type b => a = b
  | dateFormat a, dateFormat b => a = b
  | mimes a, mimes b => a = b
  | regex a, regex b => a = b
  | max a, max b => a.same b
  | min a, min b => a.same b
  | case a, case b => a = b
  | oneOf a, oneOf b => Json.sameItems a b
  | object a, object b => a.same b
  | named a, named b => a = b
  | _, _ => false

end Rule

end PayloadRules
