import PayloadRules.CompileError
import PayloadRules.Message.Key
import PayloadRules.Schema.Basic

/-!
# Label tables

A label table files the text that people read under the key of each field, so
that a message can speak of a row of a list and not of an index in a path.

Outside arrays the label of a field is its own text. Inside array items, scalars
and arrays are named together with the outermost array around them, whose text
is handed down once and not replaced on the way; nodes with fields of their own
keep their own text. Every array also gets a label for its items. When no text
was handed down, the path above the first wildcard stands in for it.

Items that are scalars or arrays get no further labels.
-/

namespace PayloadRules

/-- Labels by key. -/
abbrev LabelTable := Table String

namespace Schema

/-- The two labels of an array: its own and that of its items. -/
def arrayLabels (format : Formatter) (path : Path) (nested : Bool) (arrayName text : String) :
    List (String × String) :=
  if nested then
    [(path.key, format.nestedItem arrayName text),
      (path.wildcard.key, format.nestedItems arrayName text)]
  else [(path.key, text), (path.wildcard.key, format.arrayItems text)]

mutual

/-- The labels of a schema that stands in a container, in the order of the
fields. `inside` says that the container is an array item or stands in one, and
`root` is the text of the outermost array, empty when there is none. -/
def labelEntries (format : Formatter) (container : Path) (inside : Bool) (root : String) :
    Schema → Except CompileError (List (String × String))
  | node f properties items => do
    let name ← nameUnder container f.name?
    let path := container.child name
    let text := f.label
    let nested := inside && container.hasWildcard
    let arrayName := if root = "" then container.beforeWildcard else root
    if f.kind = some .array then
      let below ← itemLabels format path (if nested then root else text) items
      return arrayLabels format path nested arrayName text ++ below
    else if f.kind = some .object ∨ properties ≠ [] then
      let handed := if root = "" ∧ inside then text else root
      return (path.key, text) :: (← propertyLabels format path inside handed properties)
    else if nested then return [(path.key, format.nestedItem arrayName text)]
    else return [(path.key, text)]

/-- The labels of the fields of an array's items. -/
def itemLabels (format : Formatter) (array : Path) (root : String) :
    Option Schema → Except CompileError (List (String × String))
  | none => .error (.missingItemSchema array)
  | some (node f properties _) =>
    if f.kind = some .object ∨ properties ≠ [] then
      propertyLabels format array.wildcard true root properties
    else .ok []

/-- The labels of schemas in one container, from left to right. -/
def propertyLabels (format : Formatter) (container : Path) (inside : Bool) (root : String) :
    List Schema → Except CompileError (List (String × String))
  | [] => .ok []
  | s :: rest => do
    let first ← labelEntries format container inside root s
    return first ++ (← propertyLabels format container inside root rest)

end

/-- The label table of a schema that stands in a container. -/
def labelsIn (format : Formatter) (container : Path) (inside : Bool) (root : String)
    (s : Schema) : Except CompileError LabelTable :=
  (s.labelEntries format container inside root).map Table.ofFirst

/-- The label table of a top-level field. -/
def labels (format : Formatter) (s : Schema) : Except CompileError LabelTable :=
  s.labelsIn format Path.root false ""

end Schema

/-- A label table is written as an object. -/
def LabelTable.toJson (t : LabelTable) : Json := .obj (t.entries.map fun e => (e.1, .str e.2))

end PayloadRules
