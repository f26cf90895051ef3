import PayloadRules.CompileError
import PayloadRules.NameSet
import PayloadRules.Schema.Basic

/-!
# Positions

The positions of a schema are the places of a payload that get a rule list, in
the order in which they are met: a node, then what stands below it.

- Below an array stand its items. Items with fields of their own give no
  position themselves; their fields stand under the wildcard segment. Any other
  item is one position, the wildcard itself, and if it is an array too its items
  follow in turn.
- Below any other node stand its properties.

Properties of an array and items of anything else are never visited. A visited
node without a name, or a visited array without an item schema, ends the walk
with an error; a name is looked for before items are.

What is required is what the immediate container lists: the names handed in for
the top node, the required list of the node above a property, the required list
of the item schema for a field of an item. A wildcard is never required.
-/

namespace PayloadRules

/-- A place of a payload. -/
structure Position where
  /-- The path the last segment is appended to. -/
  container : Path
  segment : String
  facets : Facets
  /-- The names required in the container; none for a wildcard. -/
  requiredThere : Option NameSet

namespace Position

/-- The whole path. -/
def path (p : Position) : Path := p.container.child p.segment

/-- The key that rules are filed under. -/
def key (p : Position) : String := p.path.key

end Position

namespace Schema

mutual

/-- The positions of a schema that stands in a container. -/
def positions (container : Path) (required : NameSet) :
    Schema → Except CompileError (List Position)
  | node f properties items => do
    let name ← nameUnder container f.name?
    let path := container.child name
    let below ←
      if f.kind = some .array then itemPositions path items
      else propertyPositions path (NameSet.ofDeclared f.required) properties
    return ⟨container, name, f, some required⟩ :: below

/-- The positions below the array at a path. -/
def itemPositions (array : Path) : Option Schema → Except CompileError (List Position)
  | none => .error (.missingItemSchema array)
  | some (node f properties items) =>
    if f.kind = some .object ∨ properties ≠ [] then
      propertyPositions array.wildcard (NameSet.ofDeclared f.required) properties
    else do
      let below ← if f.kind = some .array then itemPositions array.wildcard items else .ok []
      return ⟨array, Path.anyIndex, f, none⟩ :: below

/-- The positions of schemas in one container, from left to right. -/
def propertyPositions (container : Path) (required : NameSet) :
    List Schema → Except CompileError (List Position)
  | [] => .ok []
  | s :: rest => do
    let first ← positions container required s
    return first ++ (← propertyPositions container required rest)

end

end Schema

end PayloadRules
