import PayloadRules.Consistency
import PayloadRules.LabelTable
import PayloadRules.RuleSet
import PayloadRules.Schema.Merge

/-!
# Compiling requests

The fields of a request are taken in order. The schema of a field is resolved
first: the name of the field stands in for a missing property key, then the
field's own binding and the bindings inside the schema are merged in. Required
bindings add to the names required at the top, for this field and those after
it.

`Request.compile` stops at the first structural fault. If there is none, every
disagreement of the request is reported at once; only a request without any
gives rules and labels. `Request.check` takes the fields in the same order and
finds the disagreements alone.
-/

namespace PayloadRules

/-- The rules and labels of a request. -/
structure CompiledRequest where
  rules : RuleSet
  labels : LabelTable

namespace Field

/-- The schema with the field's name as its property key where it has none. -/
def keyedSchema (f : Field) (s : Schema) : Schema :=
  s.modify fun facets => { facets with key := facets.key <|> some f.name }

/-- The schema of a field with every binding merged in, and the names required
afterwards; none without a schema. -/
def resolve? (f : Field) (required : NameSet) : Option (Schema × NameSet) :=
  f.schema.map fun s =>
    let keyed := f.keyedSchema s
    let bound := match f.binding with
      | some b => keyed.mergeBinding b required
      | none => (keyed, required)
    bound.1.merge bound.2

/-- The disagreements of a field with its merged schema, under the name of its
request. -/
def taggedDiagnostics (f : Field) (request : String) (schema : Schema) : List Diagnostic :=
  (f.diagnostics schema).map fun d => { d with request := some request }

end Field

/-! ## Checking -/

/-- The names required and the disagreements found so far. -/
structure Inspection where
  required : NameSet
  diagnostics : List Diagnostic := []

/-- Adds the disagreements of one field. -/
def Inspection.addField (request : String) (c : Inspection) (f : Field) : Inspection :=
  match f.resolve? c.required with
  | none => c
  | some (schema, required) => ⟨required, c.diagnostics ++ f.taggedDiagnostics request schema⟩

/-- The disagreements of a request, in the order of its fields. -/
def Request.check (r : Request) : List Diagnostic :=
  (r.fields.foldl (Inspection.addField r.name) { required := r.requiredSet }).diagnostics

/-! ## Compiling -/

/-- What the fields so far have given. -/
structure Compilation where
  required : NameSet
  output : CompiledRequest := ⟨Table.empty, Table.empty⟩
  diagnostics : List Diagnostic := []

namespace Compilation

/-- Adds the rules, the labels and the disagreements of one field. -/
def addField (resolve : Resolver) (format : Formatter) (request : String) (c : Compilation)
    (f : Field) : Except CompileError Compilation :=
  match f.resolve? c.required with
  | none => .ok c
  | some (schema, required) => do
    let rules ← schema.rules resolve Path.root required
    let labels ← schema.labels format
    return {
      required
      output := ⟨c.output.rules.extend rules, c.output.labels.extend labels⟩
      diagnostics := c.diagnostics ++ f.taggedDiagnostics request schema }

/-- The output, unless a field disagrees with its schema. -/
def finish (request : String) (c : Compilation) : Except CompileError CompiledRequest :=
  if c.diagnostics.isEmpty then .ok c.output else .error (.inconsistent request c.diagnostics)

end Compilation

/-- The rules and labels of a request. -/
def Request.compile (resolve : Resolver) (format : Formatter) (r : Request) :
    Except CompileError CompiledRequest := do
  let c ← r.fields.foldlM (Compilation.addField resolve format r.name) { required := r.requiredSet }
  c.finish r.name

/-- A compiled request is written as its rules and its labels. -/
def CompiledRequest.toJson (c : CompiledRequest) : Json :=
  .obj [("rules", c.rules.toJson), ("labels", LabelTable.toJson c.labels)]

end PayloadRules
