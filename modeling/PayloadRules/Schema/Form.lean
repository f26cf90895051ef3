import PayloadRules.Json.Members
import PayloadRules.Json.Reader
import PayloadRules.Schema.Basic

/-!
# The JSON form of schemas

Constraints, bindings and schemas as typed objects. The constraints of a binding
or a schema stand among its own members, so such an object has no array form and
all of it has to denote a value; constraints on their own have an array form, and
what else stands beside them does not count.

Writing leaves out what is absent: options without a value, empty property lists
and empty extension objects. A required list is written even when it is empty.
Reading takes both what is left out and what is null as absent, but the property
list and the extensions do not take null.
-/

namespace PayloadRules

/-! ## Constraints -/

namespace Enumeration

def ofJson? : Json → Option Enumeration
  | .str name => some (typeRef name)
  | .arr items => some (values (Json.uniqueItems items))
  | _ => none

def toJson : Enumeration → Json
  | typeRef name => .str name
  | values items => .arr items

end Enumeration

namespace Constraints

/-- The member names, in order. -/
def names : List String :=
  ["minimum", "maximum", "minLength", "maxLength", "minItems", "maxItems", "enum", "pattern"]

def ofMembers? (ms : Json.Members) : Option Constraints := do
  return {
    minimum := ← ms.optional? "minimum" Json.asNumber?
    maximum := ← ms.optional? "maximum" Json.asNumber?
    minLength := ← ms.optional? "minLength" Json.asNat?
    maxLength := ← ms.optional? "maxLength" Json.asNat?
    minItems := ← ms.optional? "minItems" Json.asNat?
    maxItems := ← ms.optional? "maxItems" Json.asNat?
    enumeration := ← ms.optional? "enum" Enumeration.ofJson?
    pattern := ← ms.optional? "pattern" Json.asString? }

def ofJson? (v : Json) : Option Constraints := (Json.record? names v).bind ofMembers?

/-- The constraints in a text. -/
def parse? : String → Option Constraints := Json.parseAs? (.members names) ofJson?

def toMembers (c : Constraints) : Json.Members :=
  Json.member? "minimum" .num c.minimum
    ++ Json.member? "maximum" .num c.maximum
    ++ Json.member? "minLength" Json.ofNat c.minLength
    ++ Json.member? "maxLength" Json.ofNat c.maxLength
    ++ Json.member? "minItems" Json.ofNat c.minItems
    ++ Json.member? "maxItems" Json.ofNat c.maxItems
    ++ Json.member? "enum" Enumeration.toJson c.enumeration
    ++ Json.member? "pattern" .str c.pattern

def toJson (c : Constraints) : Json := .obj c.toMembers

end Constraints

/-! ## Bindings -/

namespace Binding

/-- The member names, in order, those of the constraints last. -/
def names : List String :=
  ["name", "in", "required", "description", "nullable", "x"] ++ Constraints.names

def ofJson? (v : Json) : Option Binding := do
  let ms ← Json.object? names v
  return {
    name := ← ms.optional? "name" Json.asString?
    location := ← ms.optional? "in" Json.asString?
    required := ← ms.optional? "required" Json.asBool?
    description := ← ms.optional? "description" Json.asString?
    nullable := ← ms.optional? "nullable" Json.asBool?
    extensions := ← ms.defaulted? "x" Table.empty Json.asTable?
    constraints := ← Constraints.ofMembers? ms }

def toJson (b : Binding) : Json :=
  .obj (Json.member? "name" .str b.name
    ++ Json.member? "in" .str b.location
    ++ Json.member? "required" .bool b.required
    ++ Json.member? "description" .str b.description
    ++ Json.member? "nullable" .bool b.nullable
    ++ Json.tableMember "x" b.extensions
    ++ b.constraints.toMembers)

end Binding

/-! ## Schemas -/

namespace Kind

/-- A kind is its name, or an object with that name as its only member and null
as its value. -/
def ofJson? : Json → Option Kind
  | .str name => ofName? name
  | .obj [(name, .null)] => ofName? name
  | _ => none

end Kind

namespace Facets

/-- The facets among the members of a schema object. -/
def ofMembers? (ms : Json.Members) : Option Facets := do
  return {
    kind := ← ms.optional? "type" Kind.ofJson?
    key := ← ms.optional? "property" Json.asString?
    title := ← ms.optional? "title" Json.asString?
    description := ← ms.optional? "description" Json.asString?
    nullable := ← ms.optional? "nullable" Json.asBool?
    required := ← ms.optional? "required" (Json.asList? Json.asString?)
    constraints := ← Constraints.ofMembers? ms
    extensions := ← ms.defaulted? "x" Table.empty Json.asTable?
    binding := ← ms.optional? "binding" Binding.ofJson? }

/-- The members before the properties. -/
def leadingMembers (f : Facets) : Json.Members :=
  Json.member? "type" (fun k => .str (Kind.name k)) f.kind
    ++ Json.member? "property" .str f.key
    ++ Json.member? "title" .str f.title
    ++ Json.member? "description" .str f.description
    ++ Json.member? "nullable" .bool f.nullable
    ++ Json.member? "required" Json.ofStrings f.required

/-- The members after the items. -/
def trailingMembers (f : Facets) : Json.Members :=
  f.constraints.toMembers
    ++ Json.tableMember "x" f.extensions
    ++ Json.member? "binding" Binding.toJson f.binding

end Facets

namespace Schema

/-- The member names, in order. -/
def names : List String :=
  ["type", "property", "title", "description", "nullable", "required", "properties", "items"]
    ++ Constraints.names ++ ["x", "binding"]

mutual

def ofJson? : Json → Option Schema
  | .obj members => do
    let facets ← Facets.ofMembers? (← Json.object? names (.obj members))
    return node facets (← propertiesMember? members) (← itemsMember? members)
  | _ => none

/-- The properties among the members; none when they are left out. -/
def propertiesMember? : List (String × Json) → Option (List Schema)
  | [] => some []
  | (name, v) :: rest =>
    if name = "properties" then propertyList? v else propertiesMember? rest

def propertyList? : Json → Option (List Schema)
  | .arr items => schemas? items
  | _ => none

def schemas? : List Json → Option (List Schema)
  | [] => some []
  | v :: rest => do return (← ofJson? v) :: (← schemas? rest)

/-- The item schema among the members; left out or null when there is none. -/
def itemsMember? : List (String × Json) → Option (Option Schema)
  | [] => some none
  | (name, v) :: rest =>
    if name = "items" then
      if v.isNull then some none else (ofJson? v).map some
    else itemsMember? rest

end

mutual

def toJson : Schema → Json
  | node f properties items =>
    .obj (f.leadingMembers
      ++ Json.listMember "properties" (toJsonList properties)
      ++ itemsToMembers items
      ++ f.trailingMembers)

def toJsonList : List Schema → List Json
  | [] => []
  | s :: rest => toJson s :: toJsonList rest

def itemsToMembers : Option Schema → Json.Members
  | none => []
  | some s => [("items", toJson s)]

end

end Schema

end PayloadRules
