import PayloadRules.Diagnostic
import PayloadRules.Json.Printer
import PayloadRules.Path

/-!
# Why a request does not compile

Two structural faults stop a compilation at the first offending node: a node
without a name, and an array without an item schema. Disagreements between
declarations and schemas are collected over the whole request instead.
-/

namespace PayloadRules

/-- Why a request does not compile. -/
inductive CompileError where
  /-- A node under this path has no name. -/
  | unresolvableName (under : Path)
  /-- The array at this path has no item schema. -/
  | missingItemSchema (array : Path)
  /-- The declarations of a request disagree with its schemas. -/
  | inconsistent (request : String) (diagnostics : List Diagnostic)
deriving DecidableEq, Repr

namespace CompileError

/-- The diagnostics an error carries. -/
def diagnostics : CompileError → List Diagnostic
  | inconsistent _ ds => ds
  | _ => []

/-- The text of an error. -/
def message : CompileError → String
  | unresolvableName under =>
    let place := if under.isRoot then "<root>" else under.key
    "Cannot resolve a field name for the schema under '" ++ place ++ "'"
  | missingItemSchema array => "Array schema at '" ++ array.key ++ "' has no item schema"
  | inconsistent request ds =>
    "Invalid schema definition in " ++ request ++ ": "
      ++ (Json.ofStrings (ds.map (·.message))).compact

end CompileError

/-- The name of a node under a path. -/
def nameUnder (ancestors : Path) (name : Option String) : Except CompileError String :=
  match name with
  | some name => .ok name
  | none => .error (.unresolvableName ancestors)

end PayloadRules
