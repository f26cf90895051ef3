import PayloadRules.Json.Basic

/-!
# Typed objects

A typed object has a fixed list of names. Reading one takes its members under
those names, each at most once, and ignores every other member. `record?` also
takes an array whose items are the members' values in the order of the names,
the last ones left out at will; `object?` does not.

A member is read in one of three ways: `required?` wants it, `optional?` takes
an absent or null member as no value, `defaulted?` takes an absent member as the
default and no null. Of the writers `member?` leaves an absent value out, and
`listMember` and `tableMember` leave an empty one out.

Readers answer `none` for a value of another shape. There are no conversions:
a number with a point is not a whole number, whatever its value.
-/

namespace PayloadRules

namespace Json

/-- Values under the names of a typed object. -/
abbrev Members := List (String × Json)

/-! ## Scalars and lists -/

def isNull : Json → Bool
  | .null => true
  | _ => false

def asBool? : Json → Option Bool
  | .bool b => some b
  | _ => none

def asString? : Json → Option String
  | .str s => some s
  | _ => none

def asNumber? : Json → Option Number
  | .num n => some n
  | _ => none

/-- A whole number that is not negative. -/
def asNat? : Json → Option Nat
  | .num (.int i) => if 0 ≤ i then some i.toNat else none
  | _ => none

/-- An array whose items all read. -/
def asList? {α : Type} (item : Json → Option α) : Json → Option (List α)
  | .arr items => items.mapM item
  | _ => none

/-- An object whose members are all kept, the last value of each name. -/
def asTable? : Json → Option (Table Json)
  | .obj members => some (Table.ofLatest (uniqueMembers members))
  | _ => none

def ofNat (n : Nat) : Json := .num (.int n)

def ofStrings (names : List String) : Json := .arr (names.map .str)

/-! ## Members -/

/-- The members of an object under known names, none of them repeated. -/
def object? (names : List String) : Json → Option Members
  | .obj members =>
    let known := members.filter fun m => names.contains m.1
    if (known.map Prod.fst).Nodup then some known else none
  | _ => none

/-- The members of an object, or of an array that lists the values in the order
of the names. -/
def record? (names : List String) : Json → Option Members
  | .arr values => if values.length ≤ names.length then some (names.zip values) else none
  | v => object? names v

namespace Members

variable {α : Type}

/-- A member that has to be there. -/
def required? (ms : Members) (name : String) (read : Json → Option α) : Option α :=
  (ms.lookup name).bind read

/-- A member that may be absent or null. -/
def optional? (ms : Members) (name : String) (read : Json → Option α) : Option (Option α) :=
  match ms.lookup name with
  | none | some .null => some none
  | some v => (read v).map some

/-- A member that may be absent, but not null unless null reads. -/
def defaulted? (ms : Members) (name : String) (default : α) (read : Json → Option α) :
    Option α :=
  match ms.lookup name with
  | none => some default
  | some v => read v

end Members

/-- A member for a value that may be absent. -/
def member? {α : Type} (name : String) (write : α → Json) : Option α → Members
  | none => []
  | some v => [(name, write v)]

/-- A member for a list that is left out when empty. -/
def listMember (name : String) : List Json → Members
  | [] => []
  | items => [(name, .arr items)]

/-- A member for a table that is left out when empty. -/
def tableMember (name : String) (t : Table Json) : Members :=
  if t.isEmpty then [] else [(name, .obj t.entries)]

end Json

end PayloadRules
