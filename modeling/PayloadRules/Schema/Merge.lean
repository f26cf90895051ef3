import PayloadRules.NameSet
import PayloadRules.Schema.Basic

/-!
# Merging bindings into schemas

A binding never overrides what a schema says, its name excepted: the name of a
binding becomes the title of the node, and so its path segment. A required
binding makes its field required where the field stands, that is in the
required names of the node that contains it.

`Schema.merge` merges the binding attached to each node of a tree. The binding
of a property joins the required names of the node that lists the property; the
binding of an item schema has no list to join.
-/

namespace PayloadRules

/-! ## One binding -/

/-- The facets with a binding merged in. -/
def Facets.mergeBinding (f : Facets) (b : Binding) : Facets :=
  { f with
    title := b.keyName f.kind <|> f.title
    description := f.description <|> b.description
    nullable := f.nullable <|> b.nullable
    constraints := f.constraints.fillFrom b.constraints
    extensions := f.extensions.extend b.extensions }

/-- The required names around a node whose facets, as merged, are `f`. -/
def Binding.joinRequired (b : Binding) (f : Facets) (enclosing : NameSet) : NameSet :=
  match b.required, f.name? with
  | some true, some name => enclosing.insert name
  | _, _ => enclosing

/-- Merges a binding into a schema, and its requirement into the names required
around the schema. -/
def Schema.mergeBinding (s : Schema) (b : Binding) (enclosing : NameSet) : Schema × NameSet :=
  let merged := s.modify fun f => f.mergeBinding b
  (merged, b.joinRequired merged.facets enclosing)

/-! ## A whole tree -/

namespace Facets

/-- The facets with their own binding merged in and detached. -/
def mergeAttached (f : Facets) (enclosing : NameSet) : Facets × NameSet :=
  match f.binding with
  | none => (f, enclosing)
  | some b =>
    let merged := { f with binding := none }.mergeBinding b
    (merged, b.joinRequired merged enclosing)

/-- The names required among the properties, as declared. -/
def requiredSet (f : Facets) : NameSet := NameSet.ofDeclared f.required

/-- The facets once their properties have been merged. The declared list stays as
it is unless it has grown. -/
def withRequired (f : Facets) (required : NameSet) : Facets :=
  if f.requiredSet.size < required.size then { f with required := some required.names } else f

end Facets

namespace Schema

mutual

/-- The tree with every attached binding merged in, and the names required
around it. -/
def merge (enclosing : NameSet) : Schema → Schema × NameSet
  | node f properties items =>
    let own := f.mergeAttached enclosing
    let below := mergeAll own.1.requiredSet properties
    (node (own.1.withRequired below.2) below.1 (mergeItems items), own.2)

/-- The schemas from left to right, each adding to the names it finds. -/
def mergeAll (enclosing : NameSet) : List Schema → List Schema × NameSet
  | [] => ([], enclosing)
  | s :: rest =>
    let first := merge enclosing s
    let others := mergeAll first.2 rest
    (first.1 :: others.1, others.2)

/-- An item schema, whose own requirement is lost. -/
def mergeItems : Option Schema → Option Schema
  | none => none
  | some s => some (merge NameSet.empty s).1

end

end Schema

end PayloadRules
