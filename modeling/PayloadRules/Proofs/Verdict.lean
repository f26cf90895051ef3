import PayloadRules.Proofs.Site.Recast
import PayloadRules.Proofs.Site.Tables
import PayloadRules.Rule.Registry

/-!
# Which schemas have rules

A schema has rules when no site of it is at fault, and otherwise the first site at
fault in preorder is to blame. What is at fault is seen at a site alone: a node
without a name, or else an array without an item schema.

So the verdict rests on little. `Schema.outline` keeps of a tree the kinds and names
that a walk meets and drops the rest: everything else that nodes say, the properties
of arrays, the items of anything but an array, and of item schemas with fields of
their own all but the fields. Trees with the same outline have the same verdict,
whatever is required around them and whatever hints stand for.
-/

namespace PayloadRules

/-! ## The outline of a tree -/

/-- The kind and the name of a node, and nothing else. -/
def Facets.outline (f : Facets) : Facets := { kind := f.kind, title := f.name? }

theorem Facets.name?_outline (f : Facets) : f.outline.name? = f.name? := by
  rw [outline, name?]
  cases f.name? <;> rfl

namespace Schema

mutual

/-- What a walk meets of a node with a name of its own. -/
def outline : Schema → Schema
  | node f properties items =>
    if f.kind = some .array then node f.outline [] (outlineItems items)
    else node f.outline (outlineAll properties) none

def outlineAll : List Schema → List Schema
  | [] => []
  | s :: rest => outline s :: outlineAll rest

/-- What a walk meets of an item schema: its fields, or the single value it stands
for and the items of that. -/
def outlineItem : Schema → Schema
  | node f properties items =>
    if f.kind = some .object ∨ properties ≠ [] then
      node { kind := some .object } (outlineAll properties) none
    else node { kind := f.kind } [] (if f.kind = some .array then outlineItems items else none)

def outlineItems : Option Schema → Option Schema
  | none => none
  | some s => some (outlineItem s)

end

theorem outlineAll_eq_map (ps : List Schema) : outlineAll ps = ps.map outline := by
  induction ps with
  | nil => rfl
  | cons p ps ih => rw [outlineAll, ih, List.map_cons]

theorem outlineItems_eq_map (i : Option Schema) : outlineItems i = i.map outlineItem := by
  cases i <;> rw [outlineItems] <;> rfl

theorem outline_of_array {s : Schema} (array : s.kind = some .array) :
    s.outline = node s.facets.outline [] (s.items.map outlineItem) := by
  cases s with
  | node f ps i => rw [outline, if_pos (show f.kind = _ from array), outlineItems_eq_map]; rfl

theorem outline_of_other {s : Schema} (other : s.kind ≠ some .array) :
    s.outline = node s.facets.outline (s.properties.map outline) none := by
  cases s with
  | node f ps i => rw [outline, if_neg (show f.kind ≠ _ from other), outlineAll_eq_map]; rfl

theorem outlineItem_of_fields {s : Schema} (own : s.HasFields) :
    s.outlineItem = node { kind := some .object } (s.properties.map outline) none := by
  cases s with
  | node f ps i =>
    have shape : f.kind = some .object ∨ ps ≠ [] := own
    rw [outlineItem, if_pos shape, outlineAll_eq_map]
    rfl

theorem outlineItem_of_single {s : Schema} (single : ¬ s.HasFields) :
    s.outlineItem = node { kind := s.kind } []
      (if s.kind = some .array then s.items.map outlineItem else none) := by
  cases s with
  | node f ps i =>
    have shape : ¬ (f.kind = some .object ∨ ps ≠ []) := single
    rw [outlineItem, if_neg shape, outlineItems_eq_map]
    rfl

theorem facets_outline (s : Schema) : s.outline.facets = s.facets.outline := by
  by_cases array : s.kind = some .array
  · rw [outline_of_array array]
    rfl
  · rw [outline_of_other array]
    rfl

theorem name?_outline (s : Schema) : s.outline.name? = s.name? := by
  rw [name?, facets_outline, Facets.name?_outline, name?]

/-- Outlining keeps the sites of a tree. -/
def outlineRecast : Recast where
  named := outline
  item := outlineItem
  kind_named s := by
    rw [kind, facets_outline]
    rfl
  properties_named s other := by
    rw [outline_of_other other]
    rfl
  items_named s array := by
    rw [outline_of_array array]
    rfl
  fields_item i := by
    cases own : i.itemProperties with
    | some fields =>
      obtain ⟨has, rfl⟩ := itemProperties_eq_some_iff.mp own
      rw [outlineItem_of_fields has]
      rfl
    | none =>
      have bare := itemProperties_eq_none_iff.mp own
      rw [outlineItem_of_single bare]
      refine itemProperties_eq_none_iff.mpr (not_hasFields_iff.mpr ⟨?_, rfl⟩)
      exact (not_hasFields_iff.mp bare).1
  kind_item i single := by
    rw [outlineItem_of_single (itemProperties_eq_none_iff.mp single)]
    rfl
  items_item i single array := by
    rw [outlineItem_of_single (itemProperties_eq_none_iff.mp single), if_pos array]
    rfl

end Schema

/-! ## Faults -/

theorem CompileError.message_unresolvableName (under : Path) :
    (unresolvableName under).message =
      "Cannot resolve a field name for the schema under '" ++
        (if under.segments = [] then "<root>" else Path.join under.segments) ++ "'" := by
  have place : (if under.segments = [] then "<root>" else Path.join under.segments) =
      if under.isRoot then "<root>" else under.key := by
    simp only [Path.isRoot, Path.key, List.isEmpty_iff]
  rw [place]
  rfl

theorem CompileError.message_missingItemSchema (array : Path) :
    (missingItemSchema array).message =
      "Array schema at '" ++ Path.join array.segments ++ "' has no item schema" := rfl

namespace Site

/-- A change that keeps names keeps faults. -/
theorem fault?_recast_of_names {c : Recast} {around : NameSet → NameSet} {v : Site}
    (single : v.IsSingle) (names : ∀ s, (c.named s).name? = s.name?) :
    (v.recast c around).fault? = v.fault? := by
  have unnamed : v.isItem = false ∧ (v.recast c around).node.name? = none ↔
      v.isItem = false ∧ v.node.name? = none :=
    and_congr_right fun named => by rw [node_recast_of_named named, names]
  have missing : v.node.kind = some .array ∧ (v.recast c around).node.items = none ↔
      v.node.kind = some .array ∧ v.node.items = none :=
    and_congr_right fun array => by rw [items_recast c around single array, Option.map_eq_none_iff]
  simp only [fault?, isItem_recast, kind_recast c around single, unnamed, missing,
    path_recast_of_names names, container_recast_of_names names]

/-- What is at fault at a site, and what an error says of it. -/
theorem fault?_eq_some_iff {v : Site} {e : CompileError} :
    v.fault? = some e ↔
      v.isItem = false ∧ v.node.name? = none ∧ e = .unresolvableName v.container ∨
      (v.isItem = false → v.node.name? ≠ none) ∧ v.node.kind = some .array ∧
        v.node.items = none ∧ e = .missingItemSchema v.path := by
  by_cases unnamed : v.isItem = false ∧ v.node.name? = none
  · rw [fault?_of_unnamed unnamed.1 unnamed.2, Option.some_inj]
    constructor
    · intro same
      exact Or.inl ⟨unnamed.1, unnamed.2, same.symm⟩
    · rintro (⟨-, -, same⟩ | ⟨named, -⟩)
      · exact same.symm
      · exact (named unnamed.1 unnamed.2).elim
  · have named : v.isItem = false → v.node.name? ≠ none := fun item h => unnamed ⟨item, h⟩
    by_cases missing : v.node.kind = some .array ∧ v.node.items = none
    · rw [fault?_of_missing named missing.1 missing.2, Option.some_inj]
      constructor
      · intro same
        exact Or.inr ⟨named, missing.1, missing.2, same.symm⟩
      · rintro (⟨item, h, -⟩ | ⟨-, -, -, same⟩)
        · exact (unnamed ⟨item, h⟩).elim
        · exact same.symm
    · rw [fault?_eq_none_iff.mpr ⟨named, fun array h => missing ⟨array, h⟩⟩]
      constructor
      · intro h
        cases h
      · rintro (⟨item, h, -⟩ | ⟨-, array, h, -⟩)
        · exact (unnamed ⟨item, h⟩).elim
        · exact (missing ⟨array, h⟩).elim

end Site

/-! ## The verdict -/

namespace Schema

open Site

/-- Whether a schema has rules, and the error if it has none. -/
def verdict (s : Schema) (resolve : Resolver) (container : Path) (required : NameSet) :
    Except CompileError Unit :=
  (s.rules resolve container required).map fun _ => ()

variable {s : Schema} {container : Path} {required : NameSet} {resolve : Resolver}

theorem rules_eq_error_iff {e : CompileError} :
    s.rules resolve container required = .error e ↔
      (top container required s).preorder.findSome? fault? = some e := by
  rw [rules, rulesInto, positions_eq_gather, gather_map_eq_error_iff]

theorem exists_rules_iff :
    (∃ set, s.rules resolve container required = .ok set) ↔
      ∀ v ∈ (top container required s).preorder, v.fault? = none := by
  constructor
  · rintro ⟨set, compiled⟩
    exact (rules_eq_ok_iff.mp compiled).1
  · intro sound
    exact ⟨_, rules_eq_ok_iff.mpr ⟨sound, rfl⟩⟩

/-- The verdict is the first fault among the sites. -/
theorem verdict_eq_ite_fault :
    s.verdict resolve container required =
      match (top container required s).preorder.findSome? fault? with
      | some e => .error e
      | none => .ok () := by
  cases first : (top container required s).preorder.findSome? fault? with
  | some e =>
    rw [verdict, rules_eq_error_iff.mpr first]
    rfl
  | none =>
    obtain ⟨set, compiled⟩ : ∃ set, s.rules resolve container required = .ok set :=
      exists_rules_iff.mpr (List.findSome?_eq_none_iff.mp first)
    rw [verdict, compiled]
    rfl

/-- Where a change keeps names, the first fault stays the first. -/
theorem findSome?_fault?_recast {c : Recast} (names : ∀ s, (c.named s).name? = s.name?)
    (around : NameSet → NameSet) (s : Schema) (container : Path) (required : NameSet) :
    (top container (around required) (c.named s)).preorder.findSome? fault? =
      (top container required s).preorder.findSome? fault? := by
  have top_single := isSingle_top container required s
  have sites : (top container (around required) (c.named s)).preorder =
      (top container required s).preorder.map (recast c around) :=
    preorder_recast c around top_single
  refine findSome?_eq_of_map_eq ?_
  rw [sites, List.map_map]
  refine List.map_congr_left fun v hv => ?_
  exact fault?_recast_of_names (isSingle_of_mem_preorder top_single hv) names

/-- The sites of an outline have the faults of the sites of the tree. -/
theorem findSome?_fault?_outline (s : Schema) (container : Path) (required around : NameSet) :
    (top container around s.outline).preorder.findSome? fault? =
      (top container required s).preorder.findSome? fault? :=
  findSome?_fault?_recast (c := outlineRecast) name?_outline (fun _ => around) s container required

/-- The verdict rests on the outline alone. -/
theorem verdict_outline (s : Schema) (resolve elsewhere : Resolver) (container : Path)
    (required around : NameSet) :
    s.outline.verdict elsewhere container around = s.verdict resolve container required := by
  rw [verdict_eq_ite_fault, verdict_eq_ite_fault, findSome?_fault?_outline s container required]

/-- A schema has rules exactly when every site has what a walk asks of it: a name,
unless it is an item, and an item schema, if it is an array. Otherwise the error is
that of the first site in preorder that has not, where a missing name comes before a
missing item schema. A missing name is reported under the key of the container, or
at the root; a missing item schema with the key of the array itself, which for an
array of arrays ends in the wildcard. The verdict is the same for all trees with the
same outline, whatever names are required and whatever hints stand for. -/
theorem rules_blame_first_fault (s : Schema) (container : Path) (required : NameSet)
    (resolve : Resolver) :
    ((∃ set, s.rules resolve container required = .ok set) ↔
      ∀ v ∈ (top container required s).preorder,
        (v.isItem = false → v.node.name? ≠ none) ∧
          (v.node.kind = some .array → v.node.items ≠ none)) ∧
    (∀ e, s.rules resolve container required = .error e ↔
      ∃ before v after, (top container required s).preorder = before ++ v :: after ∧
        (∀ u ∈ before, (u.isItem = false → u.node.name? ≠ none) ∧
          (u.node.kind = some .array → u.node.items ≠ none)) ∧
        (v.isItem = false ∧ v.node.name? = none ∧ e = .unresolvableName v.container ∨
          (v.isItem = false → v.node.name? ≠ none) ∧ v.node.kind = some .array ∧
            v.node.items = none ∧ e = .missingItemSchema v.path)) ∧
    (∀ v : Site, (CompileError.unresolvableName v.container).message =
        "Cannot resolve a field name for the schema under '" ++
          (if v.container.segments = [] then "<root>" else Path.join v.container.segments) ++ "'" ∧
      (CompileError.missingItemSchema v.path).message =
        "Array schema at '" ++ Path.join v.path.segments ++ "' has no item schema" ∧
      ∀ array i, v = anyItem array i → Path.join v.path.segments = array.key ++ ".*") ∧
    ∀ (t : Schema) (elsewhere : Resolver) (around : NameSet), t.outline = s.outline →
      t.verdict elsewhere container around = s.verdict resolve container required := by
  refine ⟨?_, fun e => ?_, fun v => ⟨?_, CompileError.message_missingItemSchema v.path, ?_⟩, ?_⟩
  · rw [exists_rules_iff]
    exact forall₂_congr fun v _ => fault?_eq_none_iff
  · rw [rules_eq_error_iff, List.findSome?_eq_some_iff]
    refine exists_congr fun before => exists_congr fun v => exists_congr fun after => ?_
    refine and_congr_right fun _ => and_comm.trans (and_congr ?_ fault?_eq_some_iff)
    exact forall₂_congr fun u _ => fault?_eq_none_iff
  · exact CompileError.message_unresolvableName v.container
  · rintro array i rfl
    exact Path.key_wildcard array.isRoot_path
  · intro t elsewhere around same
    rw [← verdict_outline t elsewhere elsewhere container around around, same,
      verdict_outline s resolve elsewhere container required around]

/-- An array of arrays is to blame before what a walk would meet later, and the property
that it has besides is never met. -/
example :
    (node { kind := some .object, key := some "table" }
      [node { kind := some .array, key := some "rows" } [node {} [] none]
          (some (node { kind := some .array } [] none)),
        node {} [] none] none).rules Registry.builtin.resolve Path.root NameSet.empty =
      .error (.missingItemSchema ⟨["table", "rows", "*"]⟩) := rfl

end Schema

end PayloadRules
