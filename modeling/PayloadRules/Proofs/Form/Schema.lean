import PayloadRules.Proofs.Form.Members
import PayloadRules.Proofs.Site.Basic
import PayloadRules.Schema.Form

/-!
# Schemas are read back

For each form there are three steps. The slots of a value say what is written for it; the
writer writes these slots; and members that hold the slots are read as the value, if it has
been read from any members before. The constraints of a binding or a schema stand among its
own members, so their step is used for all three.

A schema that has been read has properties and items that have been read, so the tree is
read back from below (`Schema.readsBack`).
-/

namespace PayloadRules

open Json

/-! ## Constraints -/

theorem Kind.readsBack (k : Kind) : ReadsBack Kind.ofJson? (fun k => .str (Kind.name k)) k := by
  intro _ _
  refine ⟨Json.noConfusion, ?_⟩
  cases k <;> rfl

/-- The listed values are settled when they are read, and stay so. -/
theorem Enumeration.readsBack (e : Enumeration) :
    ReadsBack Enumeration.ofJson? Enumeration.toJson e := by
  intro v taken
  cases e with
  | typeRef name => exact ⟨Json.noConfusion, rfl⟩
  | values items =>
    refine ⟨Json.noConfusion, ?_⟩
    cases v with
    | arr raw =>
      cases taken
      rw [toJson, ofJson?, uniqueItems_uniqueItems]
    | _ => cases taken

namespace Constraints

/-- What is written for constraints. -/
def slots (c : Constraints) : List Members.Slot :=
  [("minimum", c.minimum.map .num), ("maximum", c.maximum.map .num),
    ("minLength", c.minLength.map Json.ofNat), ("maxLength", c.maxLength.map Json.ofNat),
    ("minItems", c.minItems.map Json.ofNat), ("maxItems", c.maxItems.map Json.ofNat),
    ("enum", c.enumeration.map Enumeration.toJson), ("pattern", c.pattern.map .str)]

theorem toMembers_eq (c : Constraints) : c.toMembers = Members.ofSlots c.slots := by
  simp only [toMembers, slots, Members.ofSlots, List.flatMap_cons, List.flatMap_nil,
    Members.member?_map, List.append_assoc, List.append_nil]

theorem ofMembers?_eq_some_iff {ms : Members} {c : Constraints} :
    ofMembers? ms = some c ↔
      ms.optional? "minimum" asNumber? = some c.minimum ∧
      ms.optional? "maximum" asNumber? = some c.maximum ∧
      ms.optional? "minLength" asNat? = some c.minLength ∧
      ms.optional? "maxLength" asNat? = some c.maxLength ∧
      ms.optional? "minItems" asNat? = some c.minItems ∧
      ms.optional? "maxItems" asNat? = some c.maxItems ∧
      ms.optional? "enum" Enumeration.ofJson? = some c.enumeration ∧
      ms.optional? "pattern" asString? = some c.pattern := by
  simp only [ofMembers?, Option.bind_eq_bind, Option.bind_eq_some_iff, Option.pure_def,
    Option.some_inj]
  constructor
  · rintro ⟨_, h1, _, h2, _, h3, _, h4, _, h5, _, h6, _, h7, _, h8, rfl⟩
    exact ⟨h1, h2, h3, h4, h5, h6, h7, h8⟩
  · rintro ⟨h1, h2, h3, h4, h5, h6, h7, h8⟩
    exact ⟨_, h1, _, h2, _, h3, _, h4, _, h5, _, h6, _, h7, _, h8, rfl⟩

/-- Constraints are read from any members that hold their slots. -/
theorem ofMembers?_of_holds {ms written : Members} {c : Constraints}
    (taken : ofMembers? ms = some c) (holds : written.Holds c.slots) :
    ofMembers? written = some c := by
  obtain ⟨minimum, maximum, minLength, maxLength, minItems, maxItems, enumeration, pattern⟩ :=
    ofMembers?_eq_some_iff.mp taken
  simp only [slots, Members.holds_cons, Members.holds_nil, and_true] at holds
  obtain ⟨h1, h2, h3, h4, h5, h6, h7, h8⟩ := holds
  exact ofMembers?_eq_some_iff.mpr
    ⟨Members.optional?_of_lookup (fun n _ => asNumber?_readsBack n) minimum h1,
      Members.optional?_of_lookup (fun n _ => asNumber?_readsBack n) maximum h2,
      Members.optional?_of_lookup (fun n _ => asNat?_readsBack n) minLength h3,
      Members.optional?_of_lookup (fun n _ => asNat?_readsBack n) maxLength h4,
      Members.optional?_of_lookup (fun n _ => asNat?_readsBack n) minItems h5,
      Members.optional?_of_lookup (fun n _ => asNat?_readsBack n) maxItems h6,
      Members.optional?_of_lookup (fun e _ => e.readsBack) enumeration h7,
      Members.optional?_of_lookup (fun s _ => asString?_readsBack s) pattern h8⟩

end Constraints

/-! ## Bindings -/

namespace Binding

/-- What is written for a binding. -/
def slots (b : Binding) : List Members.Slot :=
  [("name", b.name.map .str), ("in", b.location.map .str), ("required", b.required.map .bool),
    ("description", b.description.map .str), ("nullable", b.nullable.map .bool),
    ("x", Members.tableSlot b.extensions)] ++ b.constraints.slots

theorem map_fst_slots (b : Binding) : b.slots.map Prod.fst = names := rfl

theorem toJson_eq (b : Binding) : b.toJson = .obj (Members.ofSlots b.slots) := by
  simp only [toJson, slots, Members.ofSlots_append, ← Constraints.toMembers_eq]
  simp only [Members.ofSlots, List.flatMap_cons, List.flatMap_nil, Members.member?_map,
    Members.member?_tableSlot, List.append_assoc, List.nil_append]

theorem ofJson?_eq_some_iff {v : Json} {b : Binding} :
    ofJson? v = some b ↔ ∃ ms, object? names v = some ms ∧
      ms.optional? "name" asString? = some b.name ∧
      ms.optional? "in" asString? = some b.location ∧
      ms.optional? "required" asBool? = some b.required ∧
      ms.optional? "description" asString? = some b.description ∧
      ms.optional? "nullable" asBool? = some b.nullable ∧
      ms.defaulted? "x" Table.empty asTable? = some b.extensions ∧
      Constraints.ofMembers? ms = some b.constraints := by
  simp only [ofJson?, Option.bind_eq_bind, Option.bind_eq_some_iff, Option.pure_def,
    Option.some_inj]
  constructor
  · rintro ⟨ms, h, _, h1, _, h2, _, h3, _, h4, _, h5, _, h6, _, h7, rfl⟩
    exact ⟨ms, h, h1, h2, h3, h4, h5, h6, h7⟩
  · rintro ⟨ms, h, h1, h2, h3, h4, h5, h6, h7⟩
    exact ⟨ms, h, _, h1, _, h2, _, h3, _, h4, _, h5, _, h6, _, h7, rfl⟩

theorem readsBack (b : Binding) : ReadsBack ofJson? toJson b := by
  intro v taken
  refine ⟨Json.noConfusion, ?_⟩
  obtain ⟨ms, -, name, location, required, description, nullable, extensions, constraints⟩ :=
    ofJson?_eq_some_iff.mp taken
  obtain ⟨written, members, known, holds⟩ := Members.exists_written b.map_fst_slots (by decide)
  rw [toJson_eq, members]
  refine ofJson?_eq_some_iff.mpr ⟨written, known, ?_⟩
  simp only [slots, Members.holds_append, Members.holds_cons, Members.holds_nil, and_true]
    at holds
  obtain ⟨⟨h1, h2, h3, h4, h5, h6⟩, h7⟩ := holds
  exact ⟨Members.optional?_of_lookup (fun s _ => asString?_readsBack s) name h1,
    Members.optional?_of_lookup (fun s _ => asString?_readsBack s) location h2,
    Members.optional?_of_lookup (fun b _ => asBool?_readsBack b) required h3,
    Members.optional?_of_lookup (fun s _ => asString?_readsBack s) description h4,
    Members.optional?_of_lookup (fun b _ => asBool?_readsBack b) nullable h5,
    Members.defaulted?_table_of_lookup extensions h6,
    Constraints.ofMembers?_of_holds constraints h7⟩

end Binding

/-! ## Facets -/

namespace Facets

/-- What is written for facets before the properties and after the items. -/
def leadingSlots (f : Facets) : List Members.Slot :=
  [("type", f.kind.map fun k => .str (Kind.name k)), ("property", f.key.map .str),
    ("title", f.title.map .str), ("description", f.description.map .str),
    ("nullable", f.nullable.map .bool), ("required", f.required.map Json.ofStrings)]

def trailingSlots (f : Facets) : List Members.Slot :=
  f.constraints.slots ++ [("x", Members.tableSlot f.extensions),
    ("binding", f.binding.map Binding.toJson)]

theorem leadingMembers_eq (f : Facets) : f.leadingMembers = Members.ofSlots f.leadingSlots := by
  simp only [leadingMembers, leadingSlots, Members.ofSlots, List.flatMap_cons, List.flatMap_nil,
    Members.member?_map, List.append_assoc, List.append_nil]

theorem trailingMembers_eq (f : Facets) : f.trailingMembers = Members.ofSlots f.trailingSlots := by
  simp only [trailingMembers, trailingSlots, Members.ofSlots_append, ← Constraints.toMembers_eq]
  simp only [Members.ofSlots, List.flatMap_cons, List.flatMap_nil, Members.member?_map,
    Members.member?_tableSlot, List.append_assoc, List.append_nil]

theorem ofMembers?_eq_some_iff {ms : Members} {f : Facets} :
    ofMembers? ms = some f ↔
      ms.optional? "type" Kind.ofJson? = some f.kind ∧
      ms.optional? "property" asString? = some f.key ∧
      ms.optional? "title" asString? = some f.title ∧
      ms.optional? "description" asString? = some f.description ∧
      ms.optional? "nullable" asBool? = some f.nullable ∧
      ms.optional? "required" (asList? asString?) = some f.required ∧
      Constraints.ofMembers? ms = some f.constraints ∧
      ms.defaulted? "x" Table.empty asTable? = some f.extensions ∧
      ms.optional? "binding" Binding.ofJson? = some f.binding := by
  simp only [ofMembers?, Option.bind_eq_bind, Option.bind_eq_some_iff, Option.pure_def,
    Option.some_inj]
  constructor
  · rintro ⟨_, h1, _, h2, _, h3, _, h4, _, h5, _, h6, _, h7, _, h8, _, h9, rfl⟩
    exact ⟨h1, h2, h3, h4, h5, h6, h7, h8, h9⟩
  · rintro ⟨h1, h2, h3, h4, h5, h6, h7, h8, h9⟩
    exact ⟨_, h1, _, h2, _, h3, _, h4, _, h5, _, h6, _, h7, _, h8, _, h9, rfl⟩

theorem ofMembers?_of_holds {ms written : Members} {f : Facets}
    (taken : ofMembers? ms = some f) (leading : written.Holds f.leadingSlots)
    (trailing : written.Holds f.trailingSlots) : ofMembers? written = some f := by
  obtain ⟨kind, key, title, description, nullable, required, constraints, extensions, binding⟩ :=
    ofMembers?_eq_some_iff.mp taken
  simp only [leadingSlots, trailingSlots, Members.holds_append, Members.holds_cons,
    Members.holds_nil, and_true] at leading trailing
  obtain ⟨h1, h2, h3, h4, h5, h6⟩ := leading
  obtain ⟨h7, h8, h9⟩ := trailing
  exact ofMembers?_eq_some_iff.mpr
    ⟨Members.optional?_of_lookup (fun k _ => k.readsBack) kind h1,
      Members.optional?_of_lookup (fun s _ => asString?_readsBack s) key h2,
      Members.optional?_of_lookup (fun s _ => asString?_readsBack s) title h3,
      Members.optional?_of_lookup (fun s _ => asString?_readsBack s) description h4,
      Members.optional?_of_lookup (fun b _ => asBool?_readsBack b) nullable h5,
      Members.optional?_of_lookup (fun l _ => asStrings?_readsBack l) required h6,
      Constraints.ofMembers?_of_holds constraints h7,
      Members.defaulted?_table_of_lookup extensions h8,
      Members.optional?_of_lookup (fun b _ => b.readsBack) binding h9⟩

end Facets

/-! ## Schemas -/

namespace Schema

/-- What is written for a schema. -/
def slots (s : Schema) : List Members.Slot :=
  s.facets.leadingSlots ++
    [("properties", Members.listSlot (s.properties.map toJson)), ("items", s.items.map toJson)] ++
    s.facets.trailingSlots

theorem map_fst_slots (s : Schema) : s.slots.map Prod.fst = names := rfl

theorem toJsonList_eq_map (ps : List Schema) : toJsonList ps = ps.map toJson := by
  induction ps with
  | nil => rfl
  | cons p rest ih => rw [toJsonList, ih, List.map_cons]

theorem toJson_eq (s : Schema) : s.toJson = .obj (Members.ofSlots s.slots) := by
  obtain ⟨f, ps, i⟩ := s
  have items : itemsToMembers i = member? "items" toJson i := by
    cases i <;> rw [itemsToMembers] <;> rfl
  simp only [toJson, slots, Members.ofSlots_append, items, toJsonList_eq_map,
    Facets.leadingMembers_eq, Facets.trailingMembers_eq, facets, properties, Schema.items]
  simp only [Members.ofSlots, List.flatMap_cons, List.flatMap_nil, Members.member?_map,
    Members.member?_listSlot, List.append_assoc, List.append_nil]

theorem propertyList?_eq (v : Json) : propertyList? v = asList? ofJson? v := by
  cases v with
  | arr items =>
    change schemas? items = items.mapM ofJson?
    induction items with
    | nil => rfl
    | cons w rest ih => simp only [schemas?, List.mapM_cons, ih]
  | _ => rfl

/-- The properties are read as a list that may be left out. -/
theorem propertiesMember?_eq (ms : Members) :
    propertiesMember? ms = ms.defaulted? "properties" [] (asList? ofJson?) := by
  induction ms with
  | nil => rfl
  | cons m rest ih =>
    obtain ⟨name, v⟩ := m
    rw [propertiesMember?, Members.defaulted?, lookup_cons_eq_ite]
    by_cases here : name = "properties"
    · rw [if_pos here, if_pos here.symm, propertyList?_eq]
    · rw [if_neg here, if_neg (Ne.symm here), ih, Members.defaulted?]

/-- The items are read as a schema that may be left out or null. -/
theorem itemsMember?_eq (ms : Members) : itemsMember? ms = ms.optional? "items" ofJson? := by
  induction ms with
  | nil => rfl
  | cons m rest ih =>
    obtain ⟨name, v⟩ := m
    rw [itemsMember?, Members.optional?, lookup_cons_eq_ite]
    by_cases here : name = "items"
    · rw [if_pos here, if_pos here.symm]
      cases v <;> rfl
    · rw [if_neg here, if_neg (Ne.symm here), ih, Members.optional?]

theorem ofJson?_eq_some_iff {v : Json} {s : Schema} :
    ofJson? v = some s ↔ ∃ members ms : Members, v = .obj members ∧ object? names v = some ms ∧
      Facets.ofMembers? ms = some s.facets ∧
      members.defaulted? "properties" [] (asList? ofJson?) = some s.properties ∧
      members.optional? "items" ofJson? = some s.items := by
  cases v with
  | obj members =>
    simp only [ofJson?, propertiesMember?_eq, itemsMember?_eq, Option.bind_eq_bind,
      Option.bind_eq_some_iff, Option.pure_def, Option.some_inj]
    constructor
    · rintro ⟨ms, h1, f, h2, ps, h3, i, h4, rfl⟩
      exact ⟨members, ms, rfl, h1, h2, h3, h4⟩
    · rintro ⟨_, ms, same, h1, h2, h3, h4⟩
      cases same
      exact ⟨ms, h1, _, h2, _, h3, _, h4, by cases s; rfl⟩
  | _ =>
    rw [ofJson?]
    · exact iff_of_false (fun h => nomatch h) fun ⟨_, _, h, _⟩ => nomatch h
    · exact fun _ h => nomatch h

/-- Schemas are read back. By induction over the tree, since what has been read as a property
or as items is read back in its turn. -/
theorem readsBack (s : Schema) : ReadsBack ofJson? toJson s := by
  induction s using tree_induction with
  | step s properties items =>
    intro v taken
    obtain ⟨members, ms, rfl, -, own, listed, single⟩ := ofJson?_eq_some_iff.mp taken
    obtain ⟨written, same, known, holds⟩ := Members.exists_written s.map_fst_slots (by decide)
    rw [toJson_eq, same]
    refine ⟨Json.noConfusion, ofJson?_eq_some_iff.mpr ⟨written, written, rfl, known, ?_⟩⟩
    simp only [slots, Members.holds_append, Members.holds_cons, Members.holds_nil, and_true]
      at holds
    obtain ⟨⟨leading, h1, h2⟩, trailing⟩ := holds
    exact ⟨Facets.ofMembers?_of_holds own leading trailing,
      Members.defaulted?_list_of_lookup properties listed h1,
      Members.optional?_of_lookup items single h2⟩

end Schema

end PayloadRules
