import PayloadRules.Json.Basic

/-!
# Well-formed JSON

Text may be well formed and yet denote no value: a number may be beyond the
largest one, half of a surrogate pair stands for no character, and containers
may nest deeper than is taken in. `Raw` is what well-formed text spells, with
such gaps left open, and `Raw.value?` the value that it denotes if there is
none.

What a reader ignores need not denote a value. A `Selection` says which parts
count, and `Raw.select` drops the members of records that do not. The name of a
member is always part of what counts, since it decides whether the member does.
-/

namespace PayloadRules

namespace Json

/-- How many containers may be open at once. -/
def depthLimit : Nat := 127

/-- What well-formed text spells: `none` stands for a number out of range or a
string that is no text. -/
inductive Raw where
  | scalar (value : Option Json)
  | arr (items : List Raw)
  | obj (members : List (Option String × Raw))
deriving Inhabited

/-- Which parts of a value count. -/
inductive Selection where
  | whole
  /-- The same parts of every item of a list. -/
  | list (item : Selection)
  /-- Members by name; an array lists their values in the same order. -/
  | record (fields : List (String × Selection))
deriving Inhabited

namespace Selection

/-- A record whose members count as a whole. -/
def members (names : List String) : Selection := record (names.map fun name => (name, whole))

end Selection

namespace Raw

/-! ## Values -/

mutual

/-- The value, if containers nest at most `room` deep and nothing in them is a
gap. -/
def value? (room : Nat) : Raw → Option Json
  | scalar v => v
  | arr items => if room = 0 then none else (items? (room - 1) items).map .arr
  | obj members => if room = 0 then none else (members? (room - 1) members).map .obj

def items? (room : Nat) : List Raw → Option (List Json)
  | [] => some []
  | r :: rest => do return (← value? room r) :: (← items? room rest)

def members? (room : Nat) : List (Option String × Raw) → Option (List (String × Json))
  | [] => some []
  | (name, r) :: rest => do return (← name, ← value? room r) :: (← members? room rest)

end

/-! ## Selected parts -/

mutual

/-- The parts that count. -/
def select : Selection → Raw → Raw
  | .list item, arr items => arr (items.map (select item))
  | .record fields, arr items => arr (selectItems fields items)
  | .record fields, obj members => obj (members.filterMap (selectMember fields))
  | _, r => r

/-- The items of a record's array form; those beyond its members are kept. -/
def selectItems : List (String × Selection) → List Raw → List Raw
  | (_, field) :: fields, r :: rest => select field r :: selectItems fields rest
  | [], items => items
  | _ :: _, [] => []

/-- A member of a record, unless its name is known and not the record's. -/
def selectMember : List (String × Selection) → Option String × Raw → Option (Option String × Raw)
  | _, (none, r) => some (none, r)
  | [], (some _, _) => none
  | (field, counted) :: fields, (some name, r) =>
    if field = name then some (some name, select counted r)
    else selectMember fields (some name, r)

end

theorem select_whole (r : Raw) : select .whole r = r := by
  cases r <;> rfl

end Raw

end Json

end PayloadRules
