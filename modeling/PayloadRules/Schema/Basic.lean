import PayloadRules.Schema.Binding

/-!
# Schemas

A schema is a tree that describes the shape of a payload. What a node says about
itself are its facets; below it stand the schemas of its properties, in order,
and the schema of its items.

A node has two texts. Its *name* is the segment it adds to a path: the title,
else the property key, else the name of its binding. Its *label* is what people
read: the description, else the title, else the property key, else the
binding's name as it was written.
-/

namespace PayloadRules

/-- What a node of a schema says about itself. -/
structure Facets where
  kind : Option Kind := none
  key : Option String := none
  title : Option String := none
  description : Option String := none
  nullable : Option Bool := none
  required : Option (List String) := none
  constraints : Constraints := {}
  extensions : Table Json := Table.empty
  binding : Option Binding := none
deriving Inhabited

/-- The shape of a payload value. -/
inductive Schema where
  | node (facets : Facets) (properties : List Schema) (items : Option Schema)
deriving Inhabited

namespace Facets

/-- The path segment of a node. -/
def name? (f : Facets) : Option String :=
  f.title <|> f.key <|> f.binding.bind fun b => b.keyName f.kind

/-- The text that people read. -/
def label (f : Facets) : String :=
  (f.description <|> f.title <|> f.key <|> f.binding.bind fun b => b.name).getD ""

/-- Only an explicit permission makes a node nullable. -/
def isNullable (f : Facets) : Bool := f.nullable = some true

end Facets

namespace Schema

def facets : Schema → Facets
  | node f _ _ => f

def properties : Schema → List Schema
  | node _ ps _ => ps

def items : Schema → Option Schema
  | node _ _ i => i

def kind (s : Schema) : Option Kind := s.facets.kind

def name? (s : Schema) : Option String := s.facets.name?

def label (s : Schema) : String := s.facets.label

def isNullable (s : Schema) : Bool := s.facets.isNullable

/-- The schema with other facets. -/
def modify (change : Facets → Facets) : Schema → Schema
  | node f ps i => node (change f) ps i

/-- An untyped node for a property. -/
def property (key : String) : Schema := node { key := some key } [] none

/-- The properties of an item schema that stands for its own fields: an object,
or any node with properties. Other item schemas stand for a single value. -/
def itemProperties : Schema → Option (List Schema)
  | node f ps _ => if f.kind = some .object ∨ ps ≠ [] then some ps else none

end Schema

end PayloadRules
