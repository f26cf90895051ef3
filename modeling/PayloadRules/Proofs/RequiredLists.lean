import Mathlib.Data.List.Induction
import PayloadRules.Proofs.Site.Places

/-!
# What a merge writes into required lists

A required binding speaks to one list, the list of the node that contains the field, and
adds at most one name to it: the name under which the field leaves the merge. So the list
of a node can be told from the node and its properties alone (`Schema.required_merged`),
whatever bindings stand further down, and around a tree at most the name of its top is
added.

A list is written back only when it has grown. Then it has lost its repetitions, and the
new names stand behind the old ones in the order of the properties, each where it first
came. A list that nothing is added to stays as it was declared.

The binding of an item schema has no list to join. Whatever it is replaced by, every list
of the merged tree stays what it is (`Schema.map_required_rebindItems`).
-/

namespace PayloadRules

namespace NameSet

/-- What is inserted comes behind what was there: the names that are new, each where it
first came. -/
theorem names_insertAll (s : NameSet) (names : List String) :
    (s.insertAll names).names = s.names ++ names.eraseDups.filter (· ∉ s.names) := by
  induction names using List.reverseRecOn with
  | nil => simp [insertAll]
  | append_singleton names name ih =>
    have last : (s.insertAll (names ++ [name])) = (s.insertAll names).insert name :=
      insertAll_append s names [name]
    rw [last, List.eraseDups_append, List.filter_append, ← List.append_assoc, ← ih]
    by_cases there : name ∈ s.insertAll names
    · -- the name came before, in the set or among the names
      rw [insert_of_mem there]
      rw [mem_insertAll, mem_def] at there
      by_cases earlier : name ∈ names
      · simp [List.removeAll, earlier]
      · simp [List.removeAll, earlier, there.resolve_right earlier]
    · rw [names_insert_of_not_mem there]
      rw [mem_insertAll, mem_def, not_or] at there
      simp [List.removeAll, List.eraseDups_cons, there.1, there.2]

/-- A set lists the names it is made of, each where it first came. -/
theorem names_ofList (names : List String) : (ofList names).names = names.eraseDups := by
  rw [ofList, names_insertAll]
  simp [empty]

end NameSet

namespace Facets

/-- The facets with another binding attached, or with none. -/
def rebind (binding : Option Binding) (f : Facets) : Facets := { f with binding := binding }

/-- Whether a list is written back is decided by what is added to it. -/
theorem required_withRequired (f : Facets) (names : List String) :
    (f.withRequired (f.requiredSet.insertAll names)).required =
      if names.eraseDups.filter (· ∉ f.required.getD []) = [] then f.required
      else some ((f.required.getD []).eraseDups ++
        names.eraseDups.filter (· ∉ f.required.getD [])) := by
  have declared : f.requiredSet.names = (f.required.getD []).eraseDups :=
    NameSet.names_ofList _
  have grown : (f.requiredSet.insertAll names).names =
      (f.required.getD []).eraseDups ++ names.eraseDups.filter (· ∉ f.required.getD []) := by
    rw [NameSet.names_insertAll, declared]
    simp only [List.mem_eraseDups]
  unfold withRequired
  rw [NameSet.size, NameSet.size, grown, declared, List.length_append]
  by_cases nothing : names.eraseDups.filter (· ∉ f.required.getD []) = []
  · rw [if_pos nothing, nothing, List.length_nil, if_neg (by omega)]
  · have more := List.length_pos_of_ne_nil nothing
    rw [if_neg nothing, if_pos (by omega)]

end Facets

namespace Schema

/-! ## Around a tree -/

/-- Around a tree the merged name of its top comes last, if the binding of the top is
required and the name is new. Nothing else is added. -/
theorem names_merge_snd (s : Schema) (enclosing : NameSet) :
    (s.merge enclosing).2.names = enclosing.names ++
      if s.facets.isBoundRequired then s.merged.name?.toList.filter (· ∉ enclosing.names)
      else [] := by
  rw [merge_snd, NameSet.names_insertAll, asked, Facets.asked, ← name?_merged]
  by_cases bound : s.facets.isBoundRequired = true
  · cases s.merged.name? <;> simp [bound, List.eraseDups_cons]
  · simp [bound]

/-! ## The list of a node -/

/-- The names that the properties of a node ask for by required bindings, in the order of
the properties: the names under which they leave the merge. -/
def boundNames (n : Schema) : List String :=
  (n.properties.filter fun p => p.facets.isBoundRequired).filterMap fun p => p.merged.name?

/-- The names that a merge adds to the list of a node. -/
def newlyRequired (n : Schema) : List String :=
  n.boundNames.eraseDups.filter (· ∉ n.facets.required.getD [])

theorem filterMap_asked (n : Schema) : n.properties.filterMap asked = n.boundNames := by
  unfold boundNames
  induction n.properties with
  | nil => rfl
  | cons p ps ih =>
    have own : p.asked = if p.facets.isBoundRequired then p.merged.name? else none := by
      rw [asked, Facets.asked, name?_merged]
    by_cases bound : p.facets.isBoundRequired = true
    · simp only [List.filterMap_cons, List.filter_cons, own, bound, if_true, ih]
    · simp only [List.filterMap_cons, List.filter_cons, own, bound, if_false, ih,
        Bool.false_eq_true]

/-- The list of a merged node: the declared one, if nothing is added to it, and otherwise
the declared one without repetitions and then what is added. -/
theorem required_merged (n : Schema) :
    n.merged.facets.required =
      if n.newlyRequired = [] then n.facets.required
      else some ((n.facets.required.getD []).eraseDups ++ n.newlyRequired) := by
  have declared : n.facets.merged.requiredSet = n.facets.requiredSet := by
    rw [Facets.requiredSet, Facets.required_merged, Facets.requiredSet]
  rw [facets_merged, ← declared, Facets.required_withRequired, Facets.required_merged,
    filterMap_asked]
  rfl

/-! ## What a list depends on -/

/-- What the merged list of a node depends on: the list, and the facets of the properties. -/
def demands (n : Schema) : Option (List String) × List Facets :=
  (n.facets.required, n.properties.map facets)

theorem required_merged_of_demands {n m : Schema} (same : m.demands = n.demands) :
    m.merged.facets.required = n.merged.facets.required := by
  have list : m.facets.required = n.facets.required := congrArg Prod.fst same
  have asks (k : Schema) : k.properties.filterMap asked =
      (k.properties.map facets).filterMap Facets.asked := by
    rw [List.filterMap_map]
    rfl
  have properties : m.properties.map facets = n.properties.map facets := congrArg Prod.snd same
  have names : m.boundNames = n.boundNames := by
    rw [← filterMap_asked, ← filterMap_asked, asks, asks, properties]
  rw [required_merged, required_merged, newlyRequired, newlyRequired, list, names]

/-- What a change at a place leaves at every node on the way, it leaves everywhere. -/
theorem map_at?_modifyAt {α : Type} {look : Schema → α} {change : Facets → Facets}
    {place : List Turn}
    (kept : ∀ rest, rest <:+ place → ∀ s : Schema, look (s.modifyAt change rest) = look s)
    (s : Schema) (q : List Turn) :
    ((s.modifyAt change place).at? q).map look = (s.at? q).map look := by
  induction place generalizing s q with
  | nil =>
    cases q with
    | nil => exact congrArg some (kept [] (List.suffix_refl []) s)
    | cons turn q =>
      obtain ⟨f, ps, i⟩ := s
      cases turn <;> rfl
  | cons turn rest ih =>
    have further := ih fun rest' h => kept rest' (h.trans (List.suffix_cons turn rest))
    cases q with
    | nil => exact congrArg some (kept _ (List.suffix_refl _) s)
    | cons other q =>
      rw [at?, at?]
      cases turn with
      | property index =>
        cases other with
        | items => rw [below?, below?, items_modifyAt_property]
        | property j =>
          rw [below?, below?, properties_modifyAt_property, List.getElem?_modify]
          cases s.properties[j]? with
          | none => rfl
          | some p =>
            by_cases here : index = j
            · simpa [here] using further p q
            · simp [here]
      | items =>
        cases other with
        | property j => rw [below?, below?, properties_modifyAt_items]
        | items =>
          rw [below?, below?, items_modifyAt_items]
          cases s.items with
          | none => rfl
          | some i => exact further i q

/-- Another binding of an item schema changes no facets but those of the item schema, and
so nothing that a list depends on. -/
theorem demands_rebindItems (binding : Option Binding) {place rest : List Turn}
    (suffix : rest <:+ place ++ [.items]) (s : Schema) :
    (s.modifyAt (Facets.rebind binding) rest).demands = s.demands := by
  unfold demands
  match rest with
  | [] =>
    rw [facets_modifyAt_nil, properties_modifyAt_nil]
    rfl
  | .items :: rest => rw [facets_modifyAt_cons, properties_modifyAt_items]
  | .property index :: rest =>
    rw [facets_modifyAt_cons, properties_modifyAt_property]
    refine congrArg _ (map_modify_eq_map fun p _ => ?_)
    -- the place ends at an item schema, so it goes on below the property
    obtain ⟨front, ends⟩ := suffix
    cases rest with
    | nil => simp at ends
    | cons turn rest => exact facets_modifyAt_cons _ p turn rest

/-- Whatever binding an item schema has, every list of the merged tree stays. -/
theorem map_required_rebindItems (binding : Option Binding) (s : Schema)
    (place q : List Turn) :
    ((s.modifyAt (Facets.rebind binding) (place ++ [.items])).merged.at? q).map
        (fun m => m.facets.required) =
      (s.merged.at? q).map fun m => m.facets.required := by
  have kept : ((s.modifyAt (Facets.rebind binding) (place ++ [.items])).at? q).map demands =
      (s.at? q).map demands :=
    map_at?_modifyAt (fun _ suffix s => demands_rebindItems binding suffix s) s q
  rw [at?_merged, at?_merged, Option.map_map, Option.map_map]
  cases there : s.at? q with
  | none =>
    rw [there, Option.map_none, Option.map_eq_none_iff] at kept
    rw [kept]
  | some n =>
    rw [there, Option.map_some] at kept
    obtain ⟨m, found, same⟩ := Option.map_eq_some_iff.mp kept
    rw [found]
    exact congrArg some (required_merged_of_demands same)

/-- A merge changes required lists as bindings ask, one level up and no further. Around a
tree the merged name of the top comes last if the top's own binding is required and the
name is new, whatever bindings there are below. At every place stands a node whose list
is the declared one, untouched, if no property brings a new name, and otherwise the
declared one without repetitions and then the new names: the merged names of the
properties with required bindings, in their order, each at its first occurrence. The
binding of an item schema does not count: whatever stands in its place, the names around
the tree and the lists at all places are the same. -/
theorem merge_requires_what_is_asked (s : Schema) (enclosing : NameSet) :
    (s.merge enclosing).2.names = enclosing.names ++
        (if s.facets.isBoundRequired then
          (s.merge enclosing).1.name?.toList.filter (· ∉ enclosing.names) else []) ∧
      (∀ place n, s.at? place = some n →
        ∃ m, (s.merge enclosing).1.at? place = some m ∧
          m.facets.required =
            if n.newlyRequired = [] then n.facets.required
            else some ((n.facets.required.getD []).eraseDups ++ n.newlyRequired)) ∧
      ∀ (place : List Turn) (binding : Option Binding),
        let other := s.modifyAt (Facets.rebind binding) (place ++ [.items])
        (other.merge enclosing).2 = (s.merge enclosing).2 ∧
          ∀ q, ((other.merge enclosing).1.at? q).map (fun m => m.facets.required) =
            ((s.merge enclosing).1.at? q).map fun m => m.facets.required := by
  refine ⟨?_, fun place n stands => ⟨n.merged, ?_, n.required_merged⟩,
    fun place binding => ⟨?_, fun q => ?_⟩⟩
  · rw [merge_fst]
    exact s.names_merge_snd enclosing
  · rw [merge_fst, at?_merged, stands, Option.map_some]
  · have top : (s.modifyAt (Facets.rebind binding) (place ++ [.items])).facets = s.facets := by
      cases place <;> exact facets_modifyAt_cons _ _ _ _
    rw [merge_snd, merge_snd, asked, top, asked]
  · rw [merge_fst, merge_fst]
    exact map_required_rebindItems binding s place q

/-- A filter that says twice that it needs a text. Two of its properties are sent as the
order, and each of its tags would be required if it could be. -/
def orderedFilter : Schema :=
  node { kind := some .object, key := some "filter", required := some ["q", "q"] }
    [node { kind := some .string, key := some "q" } [] none,
      node { key := some "sort", binding := some { name := some "order", required := some true } }
        [] none,
      node { key := some "by", binding := some { name := some "order", required := some true } }
        [] none,
      node { kind := some .array, key := some "tags" } []
        (some (node { binding := some { name := some "tag", required := some true } } [] none))]
    none

/-- The merged filter needs the text and the order, each once. Nothing is required of the
tags or around the filter. -/
theorem orderedFilter_requires_order :
    (∃ m, (orderedFilter.merge NameSet.empty).1.at? [] = some m ∧
        m.facets.required = some ["q", "order"]) ∧
      (∃ m, (orderedFilter.merge NameSet.empty).1.at? [.property 3] = some m ∧
        m.facets.required = none) ∧
      (orderedFilter.merge NameSet.empty).2.names = [] := by
  obtain ⟨around, lists, -⟩ := merge_requires_what_is_asked orderedFilter NameSet.empty
  obtain ⟨filter, atTop, needs⟩ := lists [] _ rfl
  obtain ⟨tags, below, silent⟩ := lists [.property 3] _ rfl
  exact ⟨⟨filter, atTop, needs⟩, ⟨tags, below, silent⟩, around⟩

end Schema

end PayloadRules
