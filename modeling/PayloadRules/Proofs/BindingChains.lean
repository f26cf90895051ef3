import Mathlib.Data.List.Infix
import PayloadRules.Proofs.RequiredLists
import PayloadRules.Proofs.Table

/-!
# Bindings merged one after the other

A schema may meet several bindings in a row. What they say about the value of the field
fills gaps: a constraint, the description, nullability or an extension is taken from the
schema, or from the first binding that sets it. What they call the field replaces: the
title is the name of the last binding that has one.

So the order of the bindings counts twice and in opposite directions, and a third time for
the requirement. A required binding adds the name that is in force at that moment, which a
later binding may replace; it stays in the enclosing names nonetheless
(`Schema.mergeBindings_snd`).

The laws of one merge are stated first, then what a chain of them comes to by induction.
-/

namespace PayloadRules

/-- The first value, a thing at a time. -/
theorem findSome?_cons_eq_or {α β : Type} (look : α → Option β) (a : α) (rest : List α) :
    (a :: rest).findSome? look = (look a).or (rest.findSome? look) := by
  rw [List.findSome?_cons]
  cases look a <;> rfl

/-- What is offered twice is taken once. -/
theorem or_or_self {α : Type} (x y : Option α) : (x.or y).or y = x.or y := by
  rw [Option.or_assoc, Option.or_self]

namespace Constraints

/-- Bound by bound, the value of the first constraints that set it. -/
def firstOf (cs : List Constraints) : Constraints where
  minimum := cs.findSome? fun c => c.minimum
  maximum := cs.findSome? fun c => c.maximum
  minLength := cs.findSome? fun c => c.minLength
  maxLength := cs.findSome? fun c => c.maxLength
  minItems := cs.findSome? fun c => c.minItems
  maxItems := cs.findSome? fun c => c.maxItems
  enumeration := cs.findSome? fun c => c.enumeration
  pattern := cs.findSome? fun c => c.pattern

theorem firstOf_cons (c : Constraints) (cs : List Constraints) :
    firstOf (c :: cs) = c.fillFrom (firstOf cs) := by
  simp [firstOf, fillFrom, findSome?_cons_eq_or]

theorem fillFrom_assoc (c d e : Constraints) :
    (c.fillFrom d).fillFrom e = c.fillFrom (d.fillFrom e) := by
  simp [fillFrom, Option.or_assoc]

theorem fillFrom_self_right (c d : Constraints) : (c.fillFrom d).fillFrom d = c.fillFrom d := by
  simp [fillFrom, or_or_self]

end Constraints

namespace Table

variable {α : Type}

/-- A table that has been added has nothing to add. -/
theorem extend_extend_self (t other : Table α) :
    (t.extend other).extend other = t.extend other := by
  rw [extend_assoc, extend_self]

theorem nameSet_extend (t other : Table α) :
    (t.extend other).nameSet = t.nameSet.insertAll other.keys :=
  nameSet_insertAll t other.entries

end Table

/-! ## Facets -/

namespace Facets

/-- The facets with bindings merged in, one after the other. -/
def mergeBindings (f : Facets) (bs : List Binding) : Facets := bs.foldl mergeBinding f

variable (f : Facets)

/-- Merging a binding once more changes nothing. -/
theorem mergeBinding_mergeBinding (b : Binding) :
    (f.mergeBinding b).mergeBinding b = f.mergeBinding b := by
  have title : (b.keyName f.kind).or ((b.keyName f.kind).or f.title) =
      (b.keyName f.kind).or f.title := by
    rw [← Option.or_assoc, Option.or_self]
  simp [mergeBinding, title, or_or_self, Constraints.fillFrom_self_right,
    Table.extend_extend_self]

/-- What a merge fills from the binding, a chain of merges fills from the first binding
that has it. -/
theorem look_mergeBindings {α : Type} {look : Facets → Option α} {offer : Binding → Option α}
    (fills : ∀ f b, look (mergeBinding f b) = (look f).or (offer b)) (bs : List Binding) :
    look (f.mergeBindings bs) = (look f).or (bs.findSome? offer) := by
  induction bs generalizing f with
  | nil => exact Option.or_none.symm
  | cons b rest ih =>
    have step : f.mergeBindings (b :: rest) = (f.mergeBinding b).mergeBindings rest := rfl
    rw [step, ih, fills, findSome?_cons_eq_or, Option.or_assoc]

/-- What no merge changes, no chain of merges changes. -/
theorem look_mergeBindings_of_kept {α : Type} {look : Facets → α}
    (kept : ∀ f b, look (mergeBinding f b) = look f) (bs : List Binding) :
    look (f.mergeBindings bs) = look f := by
  induction bs generalizing f with
  | nil => rfl
  | cons b rest ih => exact (ih (f.mergeBinding b)).trans (kept f b)

theorem description_mergeBindings (bs : List Binding) :
    (f.mergeBindings bs).description =
      (f.description :: bs.map Binding.description).findSome? id := by
  rw [findSome?_cons_eq_or, List.findSome?_map]
  exact @look_mergeBindings f _ Facets.description Binding.description
    (fun f b => by simp [mergeBinding]) bs

theorem nullable_mergeBindings (bs : List Binding) :
    (f.mergeBindings bs).nullable = (f.nullable :: bs.map Binding.nullable).findSome? id := by
  rw [findSome?_cons_eq_or, List.findSome?_map]
  exact @look_mergeBindings f _ Facets.nullable Binding.nullable
    (fun f b => by simp [mergeBinding]) bs

theorem get?_extensions_mergeBindings (bs : List Binding) (key : String) :
    (f.mergeBindings bs).extensions.get? key =
      (f.extensions :: bs.map Binding.extensions).findSome? (Table.get? · key) := by
  rw [findSome?_cons_eq_or, List.findSome?_map]
  exact @look_mergeBindings f _ (fun f => f.extensions.get? key) (fun b => b.extensions.get? key)
    (fun _ _ => Table.get?_extend _ _ key) bs

theorem constraints_mergeBindings (bs : List Binding) :
    (f.mergeBindings bs).constraints =
      Constraints.firstOf (f.constraints :: bs.map Binding.constraints) := by
  induction bs generalizing f with
  | nil => simp [mergeBindings, Constraints.firstOf]
  | cons b rest ih =>
    have step : f.mergeBindings (b :: rest) = (f.mergeBinding b).mergeBindings rest := rfl
    have filled : (f.mergeBinding b).constraints = f.constraints.fillFrom b.constraints := rfl
    rw [step, ih, filled, List.map_cons, Constraints.firstOf_cons, Constraints.firstOf_cons,
      Constraints.firstOf_cons, Constraints.fillFrom_assoc]

/-- The name that came last is the title. The kind that it is written for never changes. -/
theorem title_mergeBindings (bs : List Binding) :
    (f.mergeBindings bs).title =
      (bs.reverse.findSome? fun b => b.keyName f.kind).or f.title := by
  induction bs generalizing f with
  | nil => rfl
  | cons b rest ih =>
    have step : f.mergeBindings (b :: rest) = (f.mergeBinding b).mergeBindings rest := rfl
    have renamed : (f.mergeBinding b).title = (b.keyName f.kind).or f.title := by
      simp [mergeBinding]
    have kind : (f.mergeBinding b).kind = f.kind := rfl
    rw [step, ih, kind, renamed, List.reverse_cons, List.findSome?_append, Option.or_assoc,
      findSome?_cons_eq_or, List.findSome?_nil, Option.or_none]

theorem nameSet_extensions_mergeBindings (bs : List Binding) :
    (f.mergeBindings bs).extensions.nameSet =
      f.extensions.nameSet.insertAll (bs.flatMap fun b => b.extensions.keys) := by
  induction bs generalizing f with
  | nil => rfl
  | cons b rest ih =>
    have step : f.mergeBindings (b :: rest) = (f.mergeBinding b).mergeBindings rest := rfl
    have extended : (f.mergeBinding b).extensions = f.extensions.extend b.extensions := rfl
    rw [step, ih, extended, Table.nameSet_extend, List.flatMap_cons, NameSet.insertAll_append]

theorem keys_extensions_mergeBindings (bs : List Binding) :
    (f.mergeBindings bs).extensions.keys = f.extensions.keys ++
      (bs.flatMap fun b => b.extensions.keys).eraseDups.filter (· ∉ f.extensions.keys) := by
  have names := congrArg NameSet.names (f.nameSet_extensions_mergeBindings bs)
  rw [NameSet.names_insertAll] at names
  exact names

end Facets

/-! ## Schemas and the names around them -/

namespace Schema

/-- Bindings merged into a schema one after the other: the schema, and the names that are
required around it by then. -/
def mergeBindings (s : Schema) (bs : List Binding) (enclosing : NameSet) : Schema × NameSet :=
  bs.foldl (fun merged b => merged.1.mergeBinding b merged.2) (s, enclosing)

/-- The names in force where a binding of the chain is required: for every stretch of the
chain that ends with a required binding, the name of the schema behind it. -/
def namesInForce (s : Schema) (bs : List Binding) : List String :=
  bs.inits.filterMap fun front =>
    if front.getLast?.any fun b => b.required = some true then
      (s.mergeBindings front NameSet.empty).1.name?
    else none

variable (s : Schema)

theorem mergeBindings_concat (bs : List Binding) (b : Binding) (enclosing : NameSet) :
    s.mergeBindings (bs ++ [b]) enclosing =
      (s.mergeBindings bs enclosing).1.mergeBinding b (s.mergeBindings bs enclosing).2 := by
  rw [mergeBindings, List.foldl_append]
  rfl

/-- The schema of a chain does not depend on the names around it. -/
theorem mergeBindings_fst (bs : List Binding) (enclosing : NameSet) :
    (s.mergeBindings bs enclosing).1 = s.modify fun f => f.mergeBindings bs := by
  induction bs using List.reverseRecOn with
  | nil =>
    cases s
    rfl
  | append_singleton bs b ih =>
    have step (f : Facets) : f.mergeBindings (bs ++ [b]) = (f.mergeBindings bs).mergeBinding b :=
      List.foldl_append
    simp only [mergeBindings_concat, mergeBinding, ih, step]
    cases s
    rfl

theorem facets_mergeBindings (bs : List Binding) (enclosing : NameSet) :
    (s.mergeBindings bs enclosing).1.facets = s.facets.mergeBindings bs := by
  rw [mergeBindings_fst]
  cases s
  rfl

theorem properties_mergeBindings (bs : List Binding) (enclosing : NameSet) :
    (s.mergeBindings bs enclosing).1.properties = s.properties := by
  rw [mergeBindings_fst]
  cases s
  rfl

theorem items_mergeBindings (bs : List Binding) (enclosing : NameSet) :
    (s.mergeBindings bs enclosing).1.items = s.items := by
  rw [mergeBindings_fst]
  cases s
  rfl

/-- Around the schema come the names in force, in their order. -/
theorem mergeBindings_snd (bs : List Binding) (enclosing : NameSet) :
    (s.mergeBindings bs enclosing).2 = enclosing.insertAll (s.namesInForce bs) := by
  induction bs using List.reverseRecOn with
  | nil => rfl
  | append_singleton bs b ih =>
    have last : s.namesInForce (bs ++ [b]) = s.namesInForce bs ++
        (if b.required = some true then (s.mergeBindings (bs ++ [b]) NameSet.empty).1.name?
          else none).toList := by
      unfold namesInForce
      rw [List.inits_append, List.filterMap_append]
      congr 1
      by_cases required : b.required = some true
      · cases name : (s.mergeBindings (bs ++ [b]) NameSet.empty).1.name? <;>
          simp [required, name]
      · simp [required]
    have facets : ((s.mergeBindings bs enclosing).1.modify fun f => f.mergeBinding b) =
        (s.mergeBindings (bs ++ [b]) NameSet.empty).1 := by
      rw [mergeBindings_concat, mergeBinding, mergeBindings_fst, mergeBindings_fst]
    rw [mergeBindings_concat, mergeBinding, facets, ih, Facets.joinRequired_eq_insertAll, last,
      NameSet.insertAll_append]
    rfl

/-- A binding merged in twice running counts once. -/
theorem mergeBinding_twice (b : Binding) (enclosing : NameSet) :
    (s.mergeBinding b enclosing).1.mergeBinding b (s.mergeBinding b enclosing).2 =
      s.mergeBinding b enclosing := by
  obtain ⟨f, ps, i⟩ := s
  have again (names : NameSet) :
      b.joinRequired (f.mergeBinding b) (b.joinRequired (f.mergeBinding b) names) =
        b.joinRequired (f.mergeBinding b) names := by
    simp only [Facets.joinRequired_eq_insertAll]
    generalize (if b.required = some true then (f.mergeBinding b).name? else none) = asked
    cases asked with
    | none => rfl
    | some name => exact NameSet.insert_of_mem (NameSet.mem_insert.mpr (Or.inr rfl))
  simp only [mergeBinding, modify, facets, Facets.mergeBinding_mergeBinding, again]

/-- A binding merged in twice running counts once in any chain. -/
theorem mergeBindings_twice (front : List Binding) (b : Binding) (rest : List Binding)
    (enclosing : NameSet) :
    s.mergeBindings (front ++ b :: b :: rest) enclosing =
      s.mergeBindings (front ++ b :: rest) enclosing := by
  have step := (s.mergeBindings front enclosing).1.mergeBinding_twice b
    (s.mergeBindings front enclosing).2
  simp only [mergeBindings, List.foldl_append, List.foldl_cons] at step ⊢
  rw [step]

/-- What a chain of bindings makes of a schema. Every constraint, the description,
nullability and every extension has the value of the first among schema and bindings that
sets it, and the keys of the extensions are those of the schema and then the new ones in
the order of their first appearance. The title is the name of the last binding that has
one, written for the kind of the schema, or else the title of the schema. Nothing else of
the schema changes. Around the schema the names in force at the required bindings come
behind the names there, each once. A binding that is merged in twice running counts
once. -/
theorem first_values_and_last_name (s : Schema) (bs : List Binding) (enclosing : NameSet) :
    let merged := (s.mergeBindings bs enclosing).1
    (merged.facets.constraints =
        Constraints.firstOf (s.facets.constraints :: bs.map Binding.constraints) ∧
      merged.facets.description =
        (s.facets.description :: bs.map Binding.description).findSome? id ∧
      merged.facets.nullable = (s.facets.nullable :: bs.map Binding.nullable).findSome? id ∧
      ∀ key, merged.facets.extensions.get? key =
        (s.facets.extensions :: bs.map Binding.extensions).findSome? (Table.get? · key)) ∧
    merged.facets.extensions.keys = s.facets.extensions.keys ++
      (bs.flatMap fun b => b.extensions.keys).eraseDups.filter (· ∉ s.facets.extensions.keys) ∧
    merged.facets.title =
      ((bs.reverse.findSome? fun b => b.keyName s.kind) <|> s.facets.title) ∧
    (merged.kind = s.kind ∧ merged.facets.key = s.facets.key ∧
      merged.facets.required = s.facets.required ∧
      merged.facets.binding = s.facets.binding ∧
      merged.properties = s.properties ∧ merged.items = s.items) ∧
    (s.mergeBindings bs enclosing).2.names = enclosing.names ++
      (s.namesInForce bs).eraseDups.filter (· ∉ enclosing.names) ∧
    ∀ front b rest,
      s.mergeBindings (front ++ b :: b :: rest) enclosing =
        s.mergeBindings (front ++ b :: rest) enclosing := by
  intro merged
  have facets : merged.facets = s.facets.mergeBindings bs := s.facets_mergeBindings bs enclosing
  have kept {α : Type} {look : Facets → α}
      (same : ∀ f b, look (Facets.mergeBinding f b) = look f) :
      look merged.facets = look s.facets := by
    rw [facets]
    exact s.facets.look_mergeBindings_of_kept same bs
  refine ⟨?values, ?keys, ?title, ?untouched, ?around,
    fun front b rest => s.mergeBindings_twice front b rest enclosing⟩
  case values =>
    rw [facets]
    exact ⟨s.facets.constraints_mergeBindings bs, s.facets.description_mergeBindings bs,
      s.facets.nullable_mergeBindings bs, s.facets.get?_extensions_mergeBindings bs⟩
  case keys =>
    rw [facets]
    exact s.facets.keys_extensions_mergeBindings bs
  case title =>
    rw [facets, Facets.title_mergeBindings, Option.orElse_eq_orElse]
    simp [kind]
  case untouched =>
    exact ⟨kept fun _ _ => rfl, kept fun _ _ => rfl, kept fun _ _ => rfl, kept fun _ _ => rfl,
      s.properties_mergeBindings bs enclosing, s.items_mergeBindings bs enclosing⟩
  case around => rw [mergeBindings_snd, NameSet.names_insertAll]

/-- A name that is required stays around the schema when another name replaces it. -/
example :
    let merged := (node { key := some "q" } [] none).mergeBindings
      [{ name := some "query", required := some true }, { name := some "search" }] NameSet.empty
    merged.1.facets.title = some "search" ∧ merged.2.names = ["query"] := ⟨rfl, rfl⟩

end Schema

end PayloadRules
