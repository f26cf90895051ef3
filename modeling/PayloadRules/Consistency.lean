import PayloadRules.Diagnostic
import PayloadRules.Request.Basic

/-!
# Consistency of declarations and schemas

The declared type of a field and its schema describe the same value, so they
must agree on whether null is accepted and on the type. Each disagreement gives
one diagnostic, nullability before type.

A field declared as an array agrees with an array or an object. Any other
declaration agrees with a kind whose name starts with the declared name, as
`int` agrees with `integer`, and with an untyped schema.
-/

namespace PayloadRules

namespace Consistency

/-- Whether a declared type agrees with a kind. -/
def typesAgree (declared : DeclaredType) : Option Kind → Bool
  | some kind =>
    if declared.isArray then kind.isContainer
    else declared.typeName.toList.isPrefixOf kind.name.toList
  | none => !declared.isArray

def nullabilityText (nullable : Bool) : String := if nullable then "nullable" else "not nullable"

def nullabilityMismatch (field : String) (declared actual : Bool) : Diagnostic where
  code := .nullabilityMismatch
  field := field
  message := field ++ ": Nullable definitions are different in property and schema."
  expected := some (nullabilityText declared)
  actual := some (nullabilityText actual)

def typeMismatch (field : String) (declared : DeclaredType) (kind : Option Kind) :
    Diagnostic where
  code := .typeMismatch
  field := field
  message := field ++ ": Type definitions are different in property and schema."
  expected := some declared.typeName
  actual := some ((kind.map Kind.name).getD "untyped")

/-- The disagreements between a declaration and what a schema says. -/
def diagnostics (field : String) (declared : DeclaredType) (kind : Option Kind)
    (nullable : Bool) : List Diagnostic :=
  (if declared.nullable = nullable then []
    else [nullabilityMismatch field declared.nullable nullable])
  ++ (if typesAgree declared kind then [] else [typeMismatch field declared kind])

end Consistency

/-- The disagreements between a field and the merged schema that describes it. -/
def Field.diagnostics (f : Field) (schema : Schema) : List Diagnostic :=
  Consistency.diagnostics f.name f.declared schema.kind schema.isNullable

end PayloadRules
