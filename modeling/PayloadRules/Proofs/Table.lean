import PayloadRules.Table

/-!
# What tables hold

Insertion drops an entry only when its name is there already. Entries whose names
are new, and different from one another, all arrive, in their order.

Extending one table by another is a union in which the left side wins: it keeps its entries,
and behind them come the entries of the right side whose names are new (`entries_extend`).
It does not matter whether entries are made into a table of their own first
(`insertAll_entries_insertAll`), so extending is associative.

Putting never drops the name of an entry. In a table made of the latest entries each
name stands where it first came, with the value that came last, and entries with
different names make the table that they are.
-/

namespace PayloadRules

namespace Table

variable {α : Type}

/-- Of entries with different names those arrive whose name is new. -/
theorem entries_insertAll_of_distinct {entries : List (String × α)}
    (distinct : (entries.map Prod.fst).Nodup) (t : Table α) :
    (t.insertAll entries).entries = t.entries ++ entries.filter fun e => e.1 ∉ t.keys := by
  induction entries generalizing t with
  | nil => exact (List.append_nil _).symm
  | cons e rest ih =>
    obtain ⟨new, others⟩ := List.nodup_cons.mp distinct
    have step : t.insertAll (e :: rest) = (t.insert e.1 e.2).insertAll rest := rfl
    rw [step, ih others]
    by_cases there : e.1 ∈ t.keys
    · rw [insert_of_mem there, List.filter_cons_of_neg (by simpa using there)]
    · -- The name of the entry that has just arrived does not come again.
      have same : (rest.filter fun d => d.1 ∉ (t.insert e.1 e.2).keys) =
          rest.filter fun d => d.1 ∉ t.keys := by
        refine List.filter_congr fun d hd => ?_
        have other : d.1 ≠ e.1 := fun same => new (same ▸ List.mem_map_of_mem hd)
        have keys : (t.insert e.1 e.2).keys = t.keys ++ [e.1] := by
          rw [Table.keys, entries_insert_of_not_mem there, List.map_append]
          rfl
        simp [keys, other]
      rw [same, entries_insert_of_not_mem there, List.filter_cons_of_pos (by simpa using there),
        List.append_assoc]
      rfl

/-- Entries with new and distinct names all arrive behind the others. -/
theorem entries_insertAll_of_nodup {t : Table α} {entries : List (String × α)}
    (fresh : (t.keys ++ entries.map Prod.fst).Nodup) :
    (t.insertAll entries).entries = t.entries ++ entries := by
  obtain ⟨-, distinct, apart⟩ := List.nodup_append.mp fresh
  have all_new : ∀ e ∈ entries, e.1 ∉ t.keys := fun e he there =>
    apart e.1 there e.1 (List.mem_map_of_mem he) rfl
  rw [entries_insertAll_of_distinct distinct, List.filter_eq_self.mpr (by simpa using all_new)]

/-- A table made of entries with distinct names holds them all. -/
theorem entries_ofFirst_of_nodup {entries : List (String × α)}
    (distinct : (entries.map Prod.fst).Nodup) : (ofFirst entries).entries = entries :=
  entries_insertAll_of_nodup (t := empty) distinct

theorem get?_ofFirst (entries : List (String × α)) (key : String) :
    (ofFirst entries).get? key = entries.lookup key := by
  rw [ofFirst, get?_insertAll, get?_empty, Option.none_or]

/-- Among entries that are made of things, the first thing of a name counts. -/
theorem lookup_map {β : Type} (make : β → String × α) (xs : List β) (key : String) :
    (xs.map make).lookup key =
      (xs.find? fun x => (make x).1 = key).map fun x => (make x).2 := by
  induction xs with
  | nil => rfl
  | cons x rest ih =>
    rw [List.map_cons, lookup_cons_eq_ite, List.find?_cons]
    by_cases same : (make x).1 = key
    · simp [same]
    · simp [same, Ne.symm same, ih]

/-- What is found in a table was put there under that name. -/
theorem mem_names_of_get?_ofFirst {entries : List (String × α)} {key : String} {value : α}
    (h : (ofFirst entries).get? key = some value) : key ∈ entries.map Prod.fst := by
  rw [get?_ofFirst, List.lookup_eq_some_iff] at h
  obtain ⟨front, rest, rfl, -⟩ := h
  exact List.mem_map_of_mem (List.mem_append_right _ List.mem_cons_self)

/-- Where tables are put behind one another, the first one with a key counts. -/
theorem get?_foldl_extend {β : Type} (make : β → Table α) (l : List β) (t : Table α)
    (key : String) :
    (l.foldl (fun t b => t.extend (make b)) t).get? key =
      (t.get? key).or (l.findSome? fun b => (make b).get? key) := by
  induction l generalizing t with
  | nil => exact Option.or_none.symm
  | cons b rest ih =>
    rw [List.foldl_cons, ih, get?_extend, List.findSome?_cons, Option.or_assoc]
    cases (make b).get? key <;> rfl

/-- Every entry is found under its name. -/
theorem get?_of_mem_entries {t : Table α} {e : String × α} (h : e ∈ t.entries) :
    t.get? e.1 = some e.2 := by
  obtain ⟨entries, nodup⟩ := t
  change e ∈ entries at h
  change entries.lookup e.1 = some e.2
  induction entries with
  | nil => cases h
  | cons first rest ih =>
    rw [lookup_cons_eq_ite]
    obtain ⟨new, distinct⟩ := List.nodup_cons.mp nodup
    rcases List.mem_cons.mp h with rfl | there
    · exact if_pos rfl
    · have other : e.1 ≠ first.1 := fun same => new (same ▸ List.mem_map_of_mem there)
      rw [if_neg other]
      exact ih distinct there

/-! ## The names of a table -/

/-- The names of a table. -/
def nameSet (t : Table α) : NameSet := ⟨t.keys, t.nodup⟩

theorem nameSet_insert (t : Table α) (key : String) (value : α) :
    (t.insert key value).nameSet = t.nameSet.insert key := by
  apply NameSet.ext_names
  by_cases there : key ∈ t.keys
  · rw [insert_of_mem there, NameSet.insert_of_mem there]
  · have names : (t.insert key value).keys = t.keys ++ [key] := by
      rw [keys, entries_insert_of_not_mem there, List.map_append]
      rfl
    rw [NameSet.names_insert_of_not_mem there]
    exact names

/-- Names are inserted as entries are. -/
theorem nameSet_insertAll (t : Table α) (entries : List (String × α)) :
    (t.insertAll entries).nameSet = t.nameSet.insertAll (entries.map Prod.fst) := by
  induction entries generalizing t with
  | nil => rfl
  | cons e rest ih =>
    have step : t.insertAll (e :: rest) = (t.insert e.1 e.2).insertAll rest := rfl
    rw [step, ih, nameSet_insert]
    rfl

/-- Entries whose names are there already change nothing. -/
theorem insertAll_of_mem_keys {t : Table α} {entries : List (String × α)}
    (there : ∀ e ∈ entries, e.1 ∈ t.keys) : t.insertAll entries = t := by
  induction entries with
  | nil => rfl
  | cons e rest ih =>
    have step : t.insertAll (e :: rest) = (t.insert e.1 e.2).insertAll rest := rfl
    rw [step, insert_of_mem (there e List.mem_cons_self)]
    exact ih fun d hd => there d (List.mem_cons_of_mem e hd)

/-! ## Unions -/

theorem insertAll_append (t : Table α) (entries more : List (String × α)) :
    t.insertAll (entries ++ more) = (t.insertAll entries).insertAll more := List.foldl_append

theorem mem_keys_insertAll {t : Table α} {entries : List (String × α)} {key : String} :
    key ∈ (t.insertAll entries).keys ↔ key ∈ t.keys ∨ key ∈ entries.map Prod.fst := by
  have names : key ∈ (t.insertAll entries).nameSet ↔
      key ∈ t.nameSet ∨ key ∈ entries.map Prod.fst := by
    rw [nameSet_insertAll, NameSet.mem_insertAll]
  exact names

/-- The left side stays as it is, and the new names of the right side follow. -/
theorem entries_extend (a b : Table α) :
    (a.extend b).entries = a.entries ++ b.entries.filter fun e => e.1 ∉ a.keys :=
  entries_insertAll_of_distinct b.nodup a

/-- An entry may be inserted into the table that is added, or after it. -/
theorem insertAll_entries_insert (t u : Table α) (key : String) (value : α) :
    t.insertAll (u.insert key value).entries = (t.insertAll u.entries).insert key value := by
  by_cases there : key ∈ u.keys
  · have arrived : key ∈ (t.insertAll u.entries).keys := mem_keys_insertAll.mpr (Or.inr there)
    rw [insert_of_mem there, insert_of_mem arrived]
  · rw [entries_insert_of_not_mem there, insertAll_append]
    rfl

theorem insertAll_entries_insertAll (t u : Table α) (entries : List (String × α)) :
    t.insertAll (u.insertAll entries).entries = (t.insertAll u.entries).insertAll entries := by
  induction entries generalizing u with
  | nil => rfl
  | cons e rest ih =>
    have step (t : Table α) : t.insertAll (e :: rest) = (t.insert e.1 e.2).insertAll rest := rfl
    rw [step u, ih, insertAll_entries_insert, step]

/-- Making a table of entries first makes no difference. -/
theorem extend_ofFirst (t : Table α) (entries : List (String × α)) :
    t.extend (ofFirst entries) = t.insertAll entries :=
  insertAll_entries_insertAll t empty entries

theorem extend_assoc (a b c : Table α) : (a.extend b).extend c = a.extend (b.extend c) :=
  (insertAll_entries_insertAll a b c.entries).symm

theorem extend_self (a : Table α) : a.extend a = a :=
  insertAll_of_mem_keys fun _ there => List.mem_map_of_mem there

theorem empty_extend (a : Table α) : empty.extend a = a :=
  ext_entries (entries_ofFirst_of_nodup a.nodup)

theorem extend_empty (a : Table α) : a.extend empty = a := rfl

/-! ## The latest entries -/

/-- The value that came last counts. -/
theorem get?_ofLatest (entries : List (String × α)) (key : String) :
    (ofLatest entries).get? key = entries.reverse.lookup key := by
  have run (t : Table α) : (entries.foldl (fun t e => t.put e.1 e.2) t).get? key =
      (entries.reverse.lookup key).or (t.get? key) := by
    induction entries generalizing t with
    | nil => rfl
    | cons e rest ih =>
      rw [List.foldl_cons, ih, get?_put, List.reverse_cons, List.lookup_append, Option.or_assoc,
        lookup_cons_eq_ite, List.lookup_nil]
      by_cases same : key = e.1 <;> simp [same]
  rw [ofLatest, run empty, get?_empty, Option.or_none]

/-- What is in the table was among the entries. -/
theorem mem_of_mem_ofLatest {entries : List (String × α)} {e : String × α}
    (h : e ∈ (ofLatest entries).entries) : e ∈ entries := by
  have found := get?_of_mem_entries h
  rw [get?_ofLatest, List.lookup_eq_some_iff] at found
  obtain ⟨front, rest, split, -⟩ := found
  rw [← List.mem_reverse, split]
  exact List.mem_append_right front List.mem_cons_self

theorem entries_put_of_not_mem {t : Table α} {key : String} (h : key ∉ t.keys) (value : α) :
    (t.put key value).entries = t.entries ++ [(key, value)] := by
  have replaced (entries : List (String × α)) (absent : key ∉ entries.map Prod.fst) :
      replaceIn key value entries = entries ++ [(key, value)] := by
    induction entries with
    | nil => rfl
    | cons e rest ih =>
      rw [List.map_cons, List.mem_cons, not_or] at absent
      rw [replaceIn, if_neg (Ne.symm absent.1), ih absent.2, List.cons_append]
  exact replaced t.entries h

/-- Entries with different names are all there, in their order. -/
theorem entries_ofLatest_of_nodup {entries : List (String × α)}
    (distinct : (entries.map Prod.fst).Nodup) : (ofLatest entries).entries = entries := by
  have run (t : Table α) (fresh : (t.keys ++ entries.map Prod.fst).Nodup) :
      (entries.foldl (fun t e => t.put e.1 e.2) t).entries = t.entries ++ entries := by
    induction entries generalizing t with
    | nil => exact (List.append_nil _).symm
    | cons e rest ih =>
      have absent : e.1 ∉ t.keys := fun h =>
        (List.nodup_append.mp fresh).2.2 _ h _ List.mem_cons_self rfl
      have put := entries_put_of_not_mem absent e.2
      rw [List.foldl_cons, ih (List.nodup_cons.mp distinct).2, put, List.append_assoc]
      · rfl
      · rw [keys, put, List.map_append, List.append_assoc]
        exact fresh
  exact run empty distinct

end Table

end PayloadRules
