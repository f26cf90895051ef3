/-!
# Message keys

Labels inside arrays are phrases of a language. A formatter turns a message key
and named parameters into such a phrase; the label compiler never builds one
itself. The row number is not known before a payload is validated, so the
phrases get a placeholder for it.
-/

namespace PayloadRules

/-- A phrase that labels are made with. -/
inductive MessageKey where
  | arrayItems
  | nestedArrayItem
  | nestedArrayItems
deriving DecidableEq, Repr

namespace MessageKey

def all : List MessageKey := [.arrayItems, .nestedArrayItem, .nestedArrayItems]

def name : MessageKey → String
  | .arrayItems => "array_items"
  | .nestedArrayItem => "nested_array_item"
  | .nestedArrayItems => "nested_array_items"

def ofName? (name : String) : Option MessageKey := all.find? fun k => k.name = name

end MessageKey

/-- Turns a message key and its parameters into text. -/
abbrev Formatter := MessageKey → List (String × String) → String

namespace Formatter

/-- What the validator replaces with the row number. -/
def position : String := ":position"

/-- The label of the items of an array. -/
def arrayItems (format : Formatter) (description : String) : String :=
  format .arrayItems [("description", description)]

/-- The label of a field inside an array item. -/
def nestedItem (format : Formatter) (array description : String) : String :=
  format .nestedArrayItem
    [("arrayName", array), ("description", description), ("position", position)]

/-- The label of the items of an array inside an array item. -/
def nestedItems (format : Formatter) (array description : String) : String :=
  format .nestedArrayItems
    [("arrayName", array), ("description", description), ("position", position)]

end Formatter

end PayloadRules
