import PayloadRules.NameSet

/-!
# Ordered tables

A table pairs distinct names with values and keeps the order in which the names
came. Two ways of adding an entry differ in what happens to a name that is
already there, and both leave it in its place:

- `insert` keeps the first value, and `extend` inserts every entry of another
  table, so extending is a union in which the left side wins;
- `put` keeps the last value.

That no name occurs twice is part of the type.
-/

namespace PayloadRules

/-- Looking a name up, an entry at a time. -/
theorem lookup_cons_eq_ite {α : Type} (e : String × α) (rest : List (String × α)) (k : String) :
    (e :: rest).lookup k = if k = e.1 then some e.2 else rest.lookup k := by
  rw [List.lookup_cons]
  by_cases same : k = e.1
  · simp [same]
  · have different : (k == e.1) = false := by simpa using same
    simp [same, different]

/-- Distinct names with values, in order. -/
structure Table (α : Type) where
  entries : List (String × α)
  nodup : (entries.map Prod.fst).Nodup

namespace Table

variable {α : Type}

/-! ## Views -/

/-- The names, in order. -/
def keys (t : Table α) : List String := t.entries.map Prod.fst

/-- The value of a name. -/
def get? (t : Table α) (key : String) : Option α := t.entries.lookup key

/-- Number of entries. -/
def size (t : Table α) : Nat := t.entries.length

/-- Whether there is no entry. -/
def isEmpty (t : Table α) : Bool := t.entries.isEmpty

theorem ext_entries {s t : Table α} (h : s.entries = t.entries) : s = t := by
  cases s; cases t; cases h; rfl

/-! ## The first value wins -/

/-- The table without entries. -/
def empty : Table α := ⟨[], List.nodup_nil⟩

instance : Inhabited (Table α) := ⟨empty⟩

theorem nodup_append_single {entries : List (String × α)} {key : String}
    (nodup : (entries.map Prod.fst).Nodup) (absent : key ∉ entries.map Prod.fst) (value : α) :
    ((entries ++ [(key, value)]).map Prod.fst).Nodup := by
  rw [List.map_append]
  exact nodup_append_one nodup absent

/-- Adds an entry behind the others unless its name is there. -/
def insert (t : Table α) (key : String) (value : α) : Table α :=
  if absent : key ∉ t.keys then
    ⟨t.entries ++ [(key, value)], nodup_append_single t.nodup absent value⟩
  else t

@[simp]
theorem get?_empty (key : String) : (empty : Table α).get? key = none := rfl

/-- A name that is there stays as it is. -/
theorem insert_of_mem {t : Table α} {key : String} (h : key ∈ t.keys) (value : α) :
    t.insert key value = t := by
  simp [insert, h]

/-- A new name comes last. -/
theorem entries_insert_of_not_mem {t : Table α} {key : String} (h : key ∉ t.keys) (value : α) :
    (t.insert key value).entries = t.entries ++ [(key, value)] := by
  simp [insert, h]

theorem get?_eq_none_iff {t : Table α} {key : String} : t.get? key = none ↔ key ∉ t.keys := by
  simp only [get?, keys, List.lookup_eq_none_iff, List.mem_map, not_exists, not_and]
  constructor
  · intro h e he same
    simpa [same] using h e he
  · intro h e he
    simpa using fun same : key = e.1 => h e he same.symm

/-- What was there counts before what is inserted. -/
@[simp]
theorem get?_insert (t : Table α) (key : String) (value : α) (k : String) :
    (t.insert key value).get? k = (t.get? k).or (if k = key then some value else none) := by
  by_cases h : key ∈ t.keys
  · rw [insert_of_mem h]
    by_cases same : k = key
    · cases found : t.get? k with
      | some v => rfl
      | none => exact absurd (same ▸ h) (get?_eq_none_iff.1 found)
    · simp [same]
  · rw [get?, entries_insert_of_not_mem h, List.lookup_append, ← get?]
    rw [lookup_cons_eq_ite, List.lookup_nil]

/-- Inserts entries from left to right. -/
def insertAll (t : Table α) (entries : List (String × α)) : Table α :=
  entries.foldl (fun t e => t.insert e.1 e.2) t

/-- The table counts before the entries, and of these the earlier ones. -/
@[simp]
theorem get?_insertAll (t : Table α) (entries : List (String × α)) (k : String) :
    (t.insertAll entries).get? k = (t.get? k).or (entries.lookup k) := by
  induction entries generalizing t with
  | nil => simp [insertAll]
  | cons e rest ih =>
    have step : t.insertAll (e :: rest) = (t.insert e.1 e.2).insertAll rest := rfl
    rw [step, ih, get?_insert, Option.or_assoc]
    rw [lookup_cons_eq_ite]
    by_cases same : k = e.1 <;> simp [same]

/-- Inserts every entry of another table. -/
def extend (t other : Table α) : Table α := t.insertAll other.entries

/-- Extending is a union in which the left side wins. -/
@[simp]
theorem get?_extend (t other : Table α) (k : String) :
    (t.extend other).get? k = (t.get? k).or (other.get? k) :=
  get?_insertAll t other.entries k

/-- The first value of every name, in order of first appearance. -/
def ofFirst (entries : List (String × α)) : Table α := empty.insertAll entries

/-! ## The last value wins -/

/-- Replaces the value of the entry called `key`, or appends one. -/
def replaceIn (key : String) (value : α) : List (String × α) → List (String × α)
  | [] => [(key, value)]
  | e :: rest => if e.1 = key then (key, value) :: rest else e :: replaceIn key value rest

/-- The names after replacing: the same ones, or one more behind them. -/
theorem keys_replaceIn (key : String) (value : α) (entries : List (String × α)) :
    (replaceIn key value entries).map Prod.fst =
      if key ∈ entries.map Prod.fst then entries.map Prod.fst
      else entries.map Prod.fst ++ [key] := by
  induction entries with
  | nil => simp [replaceIn]
  | cons e rest ih =>
    by_cases h : e.1 = key
    · simp [replaceIn, h]
    · have h' : ¬ key = e.1 := fun c => h c.symm
      simp only [replaceIn, h, if_false, List.map_cons, ih, List.mem_cons, h', false_or]
      split <;> simp

/-- Gives a name a value: in its place, or behind the others. -/
def put (t : Table α) (key : String) (value : α) : Table α :=
  ⟨replaceIn key value t.entries, by
    rw [keys_replaceIn]
    split
    · exact t.nodup
    next absent =>
      simpa using nodup_append_single t.nodup absent value⟩

theorem lookup_replaceIn (key : String) (value : α) (entries : List (String × α)) (k : String) :
    (replaceIn key value entries).lookup k =
      if k = key then some value else entries.lookup k := by
  induction entries with
  | nil => exact lookup_cons_eq_ite (key, value) [] k
  | cons e rest ih =>
    rw [lookup_cons_eq_ite e]
    by_cases here : e.1 = key
    · rw [replaceIn, if_pos here, lookup_cons_eq_ite, here]
      by_cases same : k = key <;> simp [same]
    · rw [replaceIn, if_neg here, lookup_cons_eq_ite, ih]
      by_cases same : k = key
      · have other : ¬ key = e.1 := fun c => here c.symm
        simp [same, other]
      · simp [same]

/-- Putting changes the value of one name. -/
@[simp]
theorem get?_put (t : Table α) (key : String) (value : α) (k : String) :
    (t.put key value).get? k = if k = key then some value else t.get? k :=
  lookup_replaceIn key value t.entries k

/-- The last value of every name, in order of first appearance. -/
def ofLatest (entries : List (String × α)) : Table α :=
  entries.foldl (fun t e => t.put e.1 e.2) empty

end Table

end PayloadRules
