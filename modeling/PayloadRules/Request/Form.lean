import PayloadRules.Json.Printer
import PayloadRules.Json.Reader
import PayloadRules.Request.Basic
import PayloadRules.Schema.Form

/-!
# The JSON form of requests

Fields, fragments and requests as typed objects, each of which may also be
written as an array of its members in order. In a text of one of them, what
stands beside its members does not count.

A definitions file holds a list of requests or a single one; a value is first
read as a list. The array form of a single request starts with a name and a list
of requests holds no strings, so at most one of the two readings succeeds. All of
a definitions file has to denote a value.
-/

namespace PayloadRules

/-! ## Declared types -/

def DeclaredType.ofJson? : Json → Option DeclaredType
  | .str s => (DeclaredType.parse s).toOption
  | _ => none

def DeclaredType.toJson (t : DeclaredType) : Json := .str t.text

/-! ## Fields -/

namespace Field

/-- The member names, in order. -/
def names : List String := ["name", "type", "schema", "binding"]

def ofJson? (v : Json) : Option Field := do
  let ms ← Json.record? names v
  return {
    name := ← ms.required? "name" Json.asString?
    declared := ← ms.required? "type" DeclaredType.ofJson?
    schema := ← ms.optional? "schema" Schema.ofJson?
    binding := ← ms.optional? "binding" Binding.ofJson? }

/-- The field in a text. -/
def parse? : String → Option Field := Json.parseAs? (.members names) ofJson?

def toJson (f : Field) : Json :=
  .obj ([("name", .str f.name), ("type", f.declared.toJson)]
    ++ Json.member? "schema" Schema.toJson f.schema
    ++ Json.member? "binding" Binding.toJson f.binding)

end Field

/-! ## Fragments -/

namespace Fragment

/-- The member names, in order. -/
def names : List String := ["name", "required", "includes"]

mutual

def ofJson? : Json → Option Fragment
  | .obj members => do
    let ms ← Json.object? names (.obj members)
    let name ← ms.required? "name" Json.asString?
    let required ← ms.optional? "required" (Json.asList? Json.asString?)
    return .mk name required (← includesMember? members)
  | .arr items => do
    guard (items.length ≤ names.length)
    let ms : Json.Members := names.zip items
    let name ← ms.required? "name" Json.asString?
    let required ← ms.optional? "required" (Json.asList? Json.asString?)
    return .mk name required (← includesItem? items)
  | _ => none

/-- The included fragments among the members; none when they are left out. -/
def includesMember? : List (String × Json) → Option (List Fragment)
  | [] => some []
  | (name, v) :: rest =>
    if name = "includes" then fragmentList? v else includesMember? rest

/-- The included fragments among the items of the array form. -/
def includesItem? : List Json → Option (List Fragment)
  | [_, _, v] => fragmentList? v
  | _ => some []

def fragmentList? : Json → Option (List Fragment)
  | .arr items => fragments? items
  | _ => none

def fragments? : List Json → Option (List Fragment)
  | [] => some []
  | v :: rest => do return (← ofJson? v) :: (← fragments? rest)

end

/-- The parts of a fragment that count, so many fragments deep. -/
def selection : Nat → Json.Selection
  | 0 => .whole
  | depth + 1 =>
    .record [("name", .whole), ("required", .whole), ("includes", .list (selection depth))]

/-- The fragment in a text. -/
def parse? : String → Option Fragment := Json.parseAs? (selection Json.depthLimit) ofJson?

mutual

def toJson : Fragment → Json
  | .mk name required includes =>
    .obj ([("name", .str name)]
      ++ Json.member? "required" Json.ofStrings required
      ++ Json.listMember "includes" (toJsonList includes))

def toJsonList : List Fragment → List Json
  | [] => []
  | f :: rest => toJson f :: toJsonList rest

end

end Fragment

/-! ## Requests -/

namespace Request

/-- The member names, in order. -/
def names : List String := ["name", "includes", "required", "fields"]

def ofJson? (v : Json) : Option Request := do
  let ms ← Json.record? names v
  return {
    name := ← ms.required? "name" Json.asString?
    includes := ← ms.defaulted? "includes" [] (Json.asList? Fragment.ofJson?)
    required := ← ms.optional? "required" (Json.asList? Json.asString?)
    fields := ← ms.defaulted? "fields" [] (Json.asList? Field.ofJson?) }

/-- The parts of a request that count. -/
def selection : Json.Selection :=
  .record [("name", .whole), ("includes", .list (Fragment.selection Json.depthLimit)),
    ("required", .whole), ("fields", .list (.members Field.names))]

/-- The request in a text. -/
def parse? : String → Option Request := Json.parseAs? selection ofJson?

def toJson (r : Request) : Json :=
  .obj ([("name", .str r.name)]
    ++ Json.listMember "includes" (Fragment.toJsonList r.includes)
    ++ Json.member? "required" Json.ofStrings r.required
    ++ [("fields", .arr (r.fields.map Field.toJson))])

/-! ## Definitions files -/

/-- The requests of a file that lists them. -/
def manyOfJson? (v : Json) : Option (List Request) := Json.asList? ofJson? v

/-- The requests of a file that holds a single one. -/
def singleOfJson? (v : Json) : Option (List Request) := (ofJson? v).map fun r => [r]

/-- The requests of a definitions file. -/
def definitionsOfJson? (v : Json) : Option (List Request) := manyOfJson? v <|> singleOfJson? v

/-- The requests in the text of a definitions file. -/
def definitions? (text : String) : Option (List Request) :=
  (Json.parse? text).bind definitionsOfJson?

end Request

end PayloadRules
