import PayloadRules.Table

/-!
# Dictionaries

A dictionary lists entries by strictly increasing key, so equal contents are
equal lists and the order in which entries were added leaves no trace. That the
keys increase is part of the type.
-/

namespace PayloadRules

/-- Entries by strictly increasing key. -/
structure Dict (α : Type) where
  entries : List (String × α)
  sorted : entries.Pairwise fun a b => a.1 < b.1
deriving DecidableEq

namespace Dict

variable {α : Type}

/-- Puts an entry in its place, instead of an earlier one with its key. -/
def place (key : String) (value : α) : List (String × α) → List (String × α)
  | [] => [(key, value)]
  | e :: rest =>
    if key < e.1 then (key, value) :: e :: rest
    else if key = e.1 then (key, value) :: rest
    else e :: place key value rest

theorem mem_place {key : String} {value : α} {entries : List (String × α)} {e : String × α}
    (h : e ∈ place key value entries) : e = (key, value) ∨ e ∈ entries := by
  induction entries with
  | nil => exact Or.inl (by simpa [place] using h)
  | cons d rest ih =>
    unfold place at h
    split at h
    · simpa using h
    · split at h
      · rcases List.mem_cons.1 h with h | h
        · exact Or.inl h
        · exact Or.inr (List.mem_cons_of_mem _ h)
      · rcases List.mem_cons.1 h with h | h
        · exact Or.inr (h ▸ List.mem_cons_self)
        · exact (ih h).imp id (List.mem_cons_of_mem _)

theorem lookup_place (key : String) (value : α) (entries : List (String × α)) (k : String) :
    (place key value entries).lookup k = if k = key then some value else entries.lookup k := by
  induction entries with
  | nil => exact lookup_cons_eq_ite (key, value) [] k
  | cons e rest ih =>
    unfold place
    split
    next => rw [lookup_cons_eq_ite]
    next =>
      rw [lookup_cons_eq_ite e]
      split
      next here =>
        rw [lookup_cons_eq_ite, ← here]
        by_cases same : k = key <;> simp [same]
      next other =>
        rw [lookup_cons_eq_ite, ih]
        by_cases same : k = key
        · simp [same, other]
        · simp [same]

theorem sorted_place {key : String} {value : α} {entries : List (String × α)}
    (sorted : entries.Pairwise fun a b => a.1 < b.1) :
    (place key value entries).Pairwise fun a b => a.1 < b.1 := by
  induction entries with
  | nil => simp [place]
  | cons d rest ih =>
    have ⟨above, tail⟩ := List.pairwise_cons.1 sorted
    unfold place
    split
    next lower =>
      refine List.pairwise_cons.2 ⟨fun e he => ?_, sorted⟩
      rcases List.mem_cons.1 he with rfl | he
      · exact lower
      · exact String.lt_trans lower (above e he)
    next notLower =>
      split
      next same => exact List.pairwise_cons.2 ⟨fun e he => same ▸ above e he, tail⟩
      next different =>
        refine List.pairwise_cons.2 ⟨fun e he => ?_, ih tail⟩
        rcases mem_place he with rfl | he
        · rcases Std.lt_trichotomy key d.1 with h | h | h
          · exact absurd h notLower
          · exact absurd h different
          · exact h
        · exact above e he

/-- The dictionary without entries. -/
def empty : Dict α := ⟨[], List.Pairwise.nil⟩

instance : Inhabited (Dict α) := ⟨empty⟩

/-- Gives a key a value. -/
def insert (d : Dict α) (key : String) (value : α) : Dict α :=
  ⟨place key value d.entries, sorted_place d.sorted⟩

/-- Inserts entries from left to right, so the last value of a key counts. -/
def ofList (entries : List (String × α)) : Dict α :=
  entries.foldl (fun d e => d.insert e.1 e.2) empty

/-- The value of a key. -/
def get? (d : Dict α) (key : String) : Option α := d.entries.lookup key

/-- Inserting changes the value of one key. -/
@[simp]
theorem get?_insert (d : Dict α) (key : String) (value : α) (k : String) :
    (d.insert key value).get? k = if k = key then some value else d.get? k :=
  lookup_place key value d.entries k

end Dict

end PayloadRules
