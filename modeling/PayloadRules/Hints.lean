import PayloadRules.Json.Printer

/-!
# Extension hints

Four extensions of a schema are hints to the rule compiler; all others are
ignored. A hint of `null` is no hint.

A date format, a list of file types or a regular expression is one text: a
string as it is, an array joined with commas (what is null in it left out), any
other value as its compact JSON text. The `validation` hint is a list of rule
identifiers: arrays are flattened at any depth, null and empty texts are left
out, everything else is one identifier.

A hint may make bounds of the schema redundant. Such bounds are *suppressed*:
they stay in the schema and give no rule.
-/

namespace PayloadRules

/-- The bounds of a schema that give rules, the choice of values aside. -/
inductive Bound where
  | minimum
  | maximum
  | minLength
  | maxLength
  | minItems
  | maxItems
  | pattern
deriving DecidableEq, Repr

/-- The hints of a schema. -/
structure Hints where
  dateFormat : Option String := none
  mimes : Option String := none
  pattern : Option String := none
  validation : List String := []
deriving DecidableEq, Repr

namespace Hints

/-! ## Reading -/

mutual

/-- The text of a value, none for null. -/
def scalarText : Json → Option String
  | .null => none
  | .str s => some s
  | .arr items => some (",".intercalate (scalarTexts items))
  | .bool b => some (Json.bool b).compact
  | .num n => some (Json.num n).compact
  | .obj members => some (Json.obj members).compact

/-- The texts of the items that have one. -/
def scalarTexts : List Json → List String
  | [] => []
  | v :: rest => (scalarText v).toList ++ scalarTexts rest

end

mutual

/-- The rule identifiers in a value, from left to right. -/
def identifiers : Json → List String
  | .arr items => identifiersAll items
  | .null => []
  | .str s => if s = "" then [] else [s]
  | .bool b => [(Json.bool b).compact]
  | .num n => [(Json.num n).compact]
  | .obj members => [(Json.obj members).compact]

def identifiersAll : List Json → List String
  | [] => []
  | v :: rest => identifiers v ++ identifiersAll rest

end

/-- The hints among the extensions of a schema. -/
def ofExtensions (extensions : Table Json) : Hints where
  dateFormat := (extensions.get? "date_format").bind scalarText
  mimes := (extensions.get? "mimes").bind scalarText
  pattern := (extensions.get? "pattern").bind scalarText
  validation := ((extensions.get? "validation").map identifiers).getD []

/-! ## Suppression -/

/-- Whether a bound gives no rule: a date format speaks for value, length and
pattern, a pattern hint for the pattern. The number of items is never
suppressed. -/
def suppresses (h : Hints) : Bound → Bool
  | .minimum | .maximum | .minLength | .maxLength => h.dateFormat.isSome
  | .minItems | .maxItems => false
  | .pattern => h.dateFormat.isSome || h.pattern.isSome

end Hints

end PayloadRules
