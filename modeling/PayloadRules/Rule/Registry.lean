import PayloadRules.Dict
import PayloadRules.Rule.Basic
import PayloadRules.Text.DebugQuoted

/-!
# The rule registry

Schemas name rules by identifier. A registry says which identifiers stand for
rule objects, directly or through an alias; an alias leads to a registered
identifier and never to another alias, so there is nothing to loop through. An
identifier the registry does not know is passed on by name.

A registration or alias replaces an earlier one of the same identifier.
-/

namespace PayloadRules

/-- Rule objects and aliases by identifier, the latest first. -/
structure Registry where
  objects : List (String × RuleObject) := []
  aliases : List (String × String) := []

namespace Registry

/-- The registry that passes every identifier on. -/
def empty : Registry := {}

/-- Registers a rule object. -/
def register (r : Registry) (id : String) (check : RuleObject) : Registry :=
  { r with objects := (id, check) :: r.objects }

/-- Makes an identifier stand for another one. -/
def addAlias (r : Registry) (id target : String) : Registry :=
  { r with aliases := (id, target) :: r.aliases }

/-- The registry with the rule objects of this library. -/
def builtin : Registry := empty.register RuleObject.integerGuard.name RuleObject.integerGuard

/-- The built-in registry with aliases. -/
def withAliases (aliases : List (String × String)) : Registry :=
  aliases.foldl (fun r a => r.addAlias a.1 a.2) builtin

/-- The rule object that an identifier stands for. -/
def find? (r : Registry) (id : String) : Option RuleObject :=
  r.objects.lookup id <|> (r.aliases.lookup id).bind fun target => r.objects.lookup target

/-- Whether an identifier stands for a rule object. -/
def contains (r : Registry) (id : String) : Bool := (r.find? id).isSome

/-- The rule of an identifier. -/
def resolve (r : Registry) (id : String) : Rule :=
  match r.find? id with
  | some check => .object check
  | none => .named id

/-! ## Listing -/

/-- The latest entry of every identifier, ordered by identifier. -/
def current {α : Type} (entries : List (String × α)) : List (String × α) :=
  (Dict.ofList entries.reverse).entries

/-- Everything the registry knows, on one line. -/
def summary (r : Registry) : String :=
  let ids := (current r.objects).map fun e => Text.debugQuoted e.1
  let aliases := (current r.aliases).map fun e =>
    Text.debugQuoted e.1 ++ ": " ++ Text.debugQuoted e.2
  "RuleRegistry \x7b rules: [" ++ ", ".intercalate ids ++ "], aliases: \x7b"
    ++ ", ".intercalate aliases ++ "\x7d \x7d"

end Registry

end PayloadRules
