/-!
# Sets of names in order

A name set lists distinct names in the order in which they came. It says which
children of one node must be present; the set of a node never reaches its
grandchildren.

That no name occurs twice is part of the type.
-/

namespace PayloadRules

/-- A name that is not there keeps the names distinct. -/
theorem nodup_append_one {names : List String} {name : String} (nodup : names.Nodup)
    (absent : name ∉ names) : (names ++ [name]).Nodup :=
  List.nodup_append.2 ⟨nodup, List.pairwise_singleton _ name, fun _ there _ new same =>
    absent (List.mem_singleton.1 new ▸ same ▸ there)⟩

/-- Distinct names, in order. -/
structure NameSet where
  names : List String
  nodup : names.Nodup

namespace NameSet

/-- The set without names. -/
def empty : NameSet := ⟨[], List.nodup_nil⟩

instance : Inhabited NameSet := ⟨empty⟩

instance : Membership String NameSet := ⟨fun s name => name ∈ s.names⟩

instance (name : String) (s : NameSet) : Decidable (name ∈ s) :=
  inferInstanceAs (Decidable (name ∈ s.names))

theorem mem_def {name : String} {s : NameSet} : name ∈ s ↔ name ∈ s.names := Iff.rfl

theorem ext_names {s t : NameSet} (h : s.names = t.names) : s = t := by
  cases s; cases t; cases h; rfl

/-- Number of names. -/
def size (s : NameSet) : Nat := s.names.length

/-- Whether there is no name. -/
def isEmpty (s : NameSet) : Bool := s.names.isEmpty

/-- Adds a name behind the others unless it is there. -/
def insert (s : NameSet) (name : String) : NameSet :=
  if absent : name ∉ s.names then
    ⟨s.names ++ [name], nodup_append_one s.nodup absent⟩
  else s

/-- A name that is there stays where it is. -/
theorem insert_of_mem {s : NameSet} {name : String} (h : name ∈ s) : s.insert name = s := by
  simp [insert, mem_def.1 h]

/-- A new name comes last. -/
theorem names_insert_of_not_mem {s : NameSet} {name : String} (h : name ∉ s) :
    (s.insert name).names = s.names ++ [name] := by
  have absent : name ∉ s.names := h
  simp [insert, absent]

@[simp]
theorem mem_insert {s : NameSet} {name n : String} : n ∈ s.insert name ↔ n ∈ s ∨ n = name := by
  by_cases h : name ∈ s
  · rw [insert_of_mem h]
    exact ⟨Or.inl, fun either => either.elim id fun same => same ▸ h⟩
  · rw [mem_def, names_insert_of_not_mem h, List.mem_append, List.mem_singleton, mem_def]

/-- Inserts names from left to right. -/
def insertAll (s : NameSet) (names : List String) : NameSet := names.foldl insert s

@[simp]
theorem mem_insertAll {s : NameSet} {names : List String} {n : String} :
    n ∈ s.insertAll names ↔ n ∈ s ∨ n ∈ names := by
  induction names generalizing s with
  | nil => simp [insertAll]
  | cons name rest ih =>
    have step : s.insertAll (name :: rest) = (s.insert name).insertAll rest := rfl
    rw [step, ih, mem_insert, List.mem_cons, or_assoc]

/-- Inserting leaves the names that are there in front. -/
theorem names_prefix_insert (s : NameSet) (name : String) : s.names <+: (s.insert name).names := by
  by_cases h : name ∈ s
  · simp [insert_of_mem h]
  · simp [names_insert_of_not_mem h]

theorem names_prefix_insertAll (s : NameSet) (names : List String) :
    s.names <+: (s.insertAll names).names := by
  induction names generalizing s with
  | nil => exact List.prefix_refl _
  | cons name rest ih => exact (names_prefix_insert s name).trans (ih (s.insert name))

/-- A set that has not grown is the same set. -/
theorem insertAll_eq_of_size_le {s : NameSet} {names : List String}
    (h : (s.insertAll names).size ≤ s.size) : s.insertAll names = s :=
  ext_names ((names_prefix_insertAll s names).eq_of_length_le h).symm

/-- New and distinct names all arrive behind the others. -/
theorem names_insertAll_of_nodup {s : NameSet} {names : List String}
    (fresh : (s.names ++ names).Nodup) : (s.insertAll names).names = s.names ++ names := by
  induction names generalizing s with
  | nil => exact (List.append_nil _).symm
  | cons name rest ih =>
    have absent : name ∉ s := fun h =>
      (List.nodup_append.mp fresh).2.2 _ h _ List.mem_cons_self rfl
    have inserted := names_insert_of_not_mem absent
    have step : s.insertAll (name :: rest) = (s.insert name).insertAll rest := rfl
    rw [step, ih, inserted, List.append_assoc]
    · rfl
    · rw [inserted, List.append_assoc]
      exact fresh

/-- The names of a list, each at its first occurrence. -/
def ofList (names : List String) : NameSet := empty.insertAll names

/-- Repetition aside, the set has the names of the list. -/
@[simp]
theorem mem_ofList {names : List String} {n : String} : n ∈ ofList names ↔ n ∈ names := by
  rw [ofList, mem_insertAll]
  exact or_iff_right List.not_mem_nil

/-- A set is made of its own names. -/
theorem ofList_names (s : NameSet) : ofList s.names = s :=
  ext_names (names_insertAll_of_nodup (s := empty) s.nodup)

/-- The names of a declared list; an absent list has none. -/
def ofDeclared (declared : Option (List String)) : NameSet := ofList (declared.getD [])

/-- Both sets, the left one first. -/
def union (s t : NameSet) : NameSet := s.insertAll t.names

@[simp]
theorem mem_union {s t : NameSet} {n : String} : n ∈ s.union t ↔ n ∈ s ∨ n ∈ t :=
  mem_insertAll

/-- Whether both sets have the same names, order aside. -/
def same (s t : NameSet) : Bool :=
  s.names.all (t.names.contains ·) && t.names.all (s.names.contains ·)

end NameSet

end PayloadRules
