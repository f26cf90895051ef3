import PayloadRules.Hints
import PayloadRules.NameSet
import PayloadRules.Path
import PayloadRules.Rule.Basic
import PayloadRules.Schema.Basic

/-!
# The rules of one node

The rule list of a node is put together from parts in a fixed order:
nullability, presence, type, hints, choice of values, bounds, pattern. Every
part gives the rules it gives whatever the other parts are, with two
exceptions: a file hint stands in for the type, and hints may suppress bounds.

Presence depends on where the node stands. A required object must be present,
nullable or not. Any other required node is not asked for when it is nullable.
Below the top a node is required where its container is present; at the top an
array must be present and a scalar required.
-/

namespace PayloadRules

/-- What an identifier in a `validation` hint stands for. -/
abbrev Resolver := String → Rule

/-- The presence rule of a node called `name` in a container with the given
path and required names. -/
def presenceRule (f : Facets) (name : String) (container : Path) (required : NameSet) :
    Option Rule :=
  if name ∉ required then none
  else if f.kind = some .object then some .present
  else if f.isNullable then none
  else if ¬ container.isRoot then some (.requiredWith container.key)
  else if f.kind = some .array then some .present
  else some .required

/-- The type rules of a kind. -/
def Kind.rules : Kind → List Rule
  | .string => [.type .string]
  | .number => [.type .numeric]
  | .integer => [.object RuleObject.integerGuard, .type .integer]
  | .boolean => [.type .boolean]
  | .array => [.type .array]
  | .object => [.type .array]

/-- The type rules of a node and the rules of its format hints. A file hint
leaves no other type. -/
def typeRules (kind : Option Kind) (hints : Hints) : List Rule :=
  let format := hints.dateFormat.toList.map Rule.dateFormat
  match hints.mimes with
  | none => (kind.map Kind.rules).getD [] ++ format
  | some types => format ++ [.type .file, .mimes types]

/-- The rule of a choice of values. -/
def Enumeration.rule : Enumeration → Rule
  | typeRef name => .case name
  | values items => .oneOf items

/-- The rules of the bounds that are not suppressed, in their fixed order. -/
def Constraints.rules (c : Constraints) (hints : Hints) : List Rule :=
  let allowed (bound : Bound) (rule : Option Rule) : List Rule :=
    if hints.suppresses bound then [] else rule.toList
  let count (n : Nat) : Number := .int n
  allowed .maximum (c.maximum.map Rule.max)
    ++ allowed .maxLength (c.maxLength.map fun n => Rule.max (count n))
    ++ allowed .minimum (c.minimum.map Rule.min)
    ++ allowed .minLength (c.minLength.map fun n => Rule.min (count n))
    ++ allowed .maxItems (c.maxItems.map fun n => Rule.max (count n))
    ++ allowed .minItems (c.minItems.map fun n => Rule.min (count n))
    ++ allowed .pattern (c.pattern.map fun p => Rule.regex ("/" ++ p ++ "/"))

/-- The rule list of a node with the given presence rule. -/
def Facets.rules (f : Facets) (resolve : Resolver) (presence : Option Rule) : List Rule :=
  let hints := Hints.ofExtensions f.extensions
  (if f.isNullable then [.nullable] else [])
    ++ presence.toList
    ++ typeRules f.kind hints
    ++ hints.pattern.toList.map Rule.regex
    ++ hints.validation.map resolve
    ++ (f.constraints.enumeration.map Enumeration.rule).toList
    ++ f.constraints.rules hints

end PayloadRules
