import PayloadRules.Proofs.Merge
import PayloadRules.Proofs.Presence
import PayloadRules.Proofs.RuleKeys

/-!
# Required bindings below the top

A binding that makes a property required has two ways to be lost: the merge may not
tell the node that lists the property, or it may tell it a name that the property does
not keep. Neither happens. The name that a property asks for is its merged name
(`Schema.asked_eq_some_iff`), and the list that it joins is the one that rules are
compiled from (`Site.mem_listed_merged`), whether the property stands in an object or
in the items of an array. So what is required by a binding is asked for.

The binding of an item schema has no list to join. What it changes are rules of the
wildcard entry: a tree that is merged without the bindings of its item schemas has the
same entries under all names (`Schema.rules_withoutItemBindings`), and a wildcard is
never asked for.
-/

namespace PayloadRules

/-! ## Item schemas without bindings -/

namespace Schema

/-- The schema without the binding attached to it. -/
def unbound (s : Schema) : Schema := s.modify fun f => { f with binding := none }

mutual

/-- The tree without the bindings that are attached to item schemas. -/
def withoutItemBindings : Schema → Schema
  | node f properties items =>
    node f (withoutItemBindingsAll properties) (withoutItemBindingsBelow items)

def withoutItemBindingsAll : List Schema → List Schema
  | [] => []
  | s :: rest => withoutItemBindings s :: withoutItemBindingsAll rest

def withoutItemBindingsBelow : Option Schema → Option Schema
  | none => none
  | some i => some (withoutItemBindings i).unbound

end

theorem withoutItemBindingsAll_eq_map (ps : List Schema) :
    withoutItemBindingsAll ps = ps.map withoutItemBindings := by
  induction ps with
  | nil => rfl
  | cons p ps ih => rw [withoutItemBindingsAll, ih, List.map_cons]

section Parts

variable (s : Schema)

theorem facets_withoutItemBindings : s.withoutItemBindings.facets = s.facets := by
  cases s
  rw [withoutItemBindings, facets, facets]

theorem properties_withoutItemBindings :
    s.withoutItemBindings.properties = s.properties.map withoutItemBindings := by
  cases s
  rw [withoutItemBindings, properties, properties, withoutItemBindingsAll_eq_map]

theorem items_withoutItemBindings :
    s.withoutItemBindings.items = s.items.map fun i => i.withoutItemBindings.unbound := by
  cases s with
  | node f ps i =>
    rw [withoutItemBindings, items, items]
    cases i <;> rw [withoutItemBindingsBelow] <;> rfl

theorem kind_withoutItemBindings : s.withoutItemBindings.kind = s.kind := by
  rw [kind, facets_withoutItemBindings, kind]

theorem kind_unbound : s.unbound.kind = s.kind := by
  cases s
  rfl

theorem properties_unbound : s.unbound.properties = s.properties := by
  cases s
  rfl

theorem items_unbound : s.unbound.items = s.items := by
  cases s
  rfl

theorem requiredSet_unbound : s.unbound.facets.requiredSet = s.facets.requiredSet := by
  cases s
  rfl

end Parts

/-- Taking the bindings off item schemas keeps the sites of a tree. -/
def itemBindingRecast : Recast where
  named := withoutItemBindings
  item i := i.withoutItemBindings.unbound
  kind_named := kind_withoutItemBindings
  properties_named s _ := properties_withoutItemBindings s
  items_named s _ := items_withoutItemBindings s
  fields_item i := Recast.itemProperties_of_shape
    ((kind_unbound _).trans (kind_withoutItemBindings i))
    ((properties_unbound _).trans (properties_withoutItemBindings i))
  kind_item i _ := (kind_unbound _).trans (kind_withoutItemBindings i)
  items_item i _ _ := (items_unbound _).trans (items_withoutItemBindings i)

/-- A property asks for its own requirement, whatever bindings items have. -/
theorem asked_withoutItemBindings (s : Schema) : s.withoutItemBindings.asked = s.asked := by
  rw [asked, facets_withoutItemBindings, asked]

theorem filterMap_asked_withoutItemBindings (ps : List Schema) :
    (ps.map withoutItemBindings).filterMap asked = ps.filterMap asked := by
  rw [List.filterMap_map]
  exact List.filterMap_congr fun p _ => asked_withoutItemBindings p

/-- A node with a name of its own is merged as before. -/
theorem facets_merged_withoutItemBindings (s : Schema) :
    s.withoutItemBindings.merged.facets = s.merged.facets := by
  rw [facets_merged, facets_merged, facets_withoutItemBindings, properties_withoutItemBindings,
    filterMap_asked_withoutItemBindings]

theorem name?_merged_withoutItemBindings (s : Schema) :
    s.withoutItemBindings.merged.name? = s.merged.name? := by
  rw [name?, facets_merged_withoutItemBindings, name?]

/-- An item schema requires what it did before. -/
theorem requiredSet_merged_unbound (i : Schema) :
    i.withoutItemBindings.unbound.merged.facets.requiredSet = i.merged.facets.requiredSet := by
  rw [requiredSet_merged, requiredSet_merged, requiredSet_unbound, properties_unbound,
    facets_withoutItemBindings, properties_withoutItemBindings,
    filterMap_asked_withoutItemBindings]

end Schema

/-! ## Merged sites -/

namespace Site

/-- The site in the merged tree. -/
def merged (v : Site) : Site := v.recast Schema.mergeRecast id

/-- The site in the tree that is merged without the bindings of its item schemas. -/
def mergedWithoutItemBindings (v : Site) : Site :=
  v.recast (Schema.mergeRecast.comp Schema.itemBindingRecast) id

variable {u v : Site}

theorem node_merged (v : Site) : v.merged.node = v.node.merged := by
  cases v <;> rfl

theorem isItem_merged (v : Site) : v.merged.isItem = v.isItem := isItem_recast v

theorem ancestors_merged (v : Site) : v.merged.ancestors = v.ancestors.map merged :=
  ancestors_recast v

theorem front_merged (v : Site) : v.merged.front = v.front := by
  induction v with
  | top container required s => rfl
  | property parent s ih => exact ih
  | field array items s ih => exact ih
  | anyItem array i ih => exact ih

theorem segment_merged {old : String} (named : v.isItem = false) (name : v.node.name? = some old) :
    v.merged.segment = v.node.facets.boundName.getD old := by
  have renamed := Schema.name?_merged_of_name name
  rw [segment_of_named ((isItem_merged v).trans named), node_merged, renamed, Option.getD_some]

/-- The merged name of a property with a required binding stands in the list of its
merged container. -/
theorem mem_listed_merged {old : String} (step : v ∈ u.children) (named : v.isItem = false)
    (bound : v.node.facets.isBoundRequired = true) (name : v.node.name? = some old) :
    v.merged.segment ∈ v.merged.listed := by
  have renamed := Schema.name?_merged_of_name name
  rw [segment_merged named name]
  obtain ⟨-, p, hp, rfl⟩ | ⟨-, items, -, ⟨fields, own, p, hp, rfl⟩ | ⟨-, rfl⟩⟩ := mem_children step
  · change _ ∈ u.merged.node.facets.requiredSet
    rw [node_merged]
    exact Schema.mem_requiredSet_merged.mpr (Or.inr ⟨p, hp, bound, renamed⟩)
  · obtain ⟨-, rfl⟩ := Schema.itemProperties_eq_some_iff.mp own
    exact Schema.mem_requiredSet_merged.mpr (Or.inr ⟨p, hp, bound, renamed⟩)
  · cases named

/-- Below the top, a listed name is asked for: an object has to be present, and anything
else is required with its container unless it may be null. -/
theorem presence_of_mem_listed (named : v.isItem = false) (below : v.ancestors ≠ [])
    (there : v.segment ∈ v.listed) :
    (v.node.kind = some .object → v.presence = some .present) ∧
      (v.node.kind ≠ some .object → v.node.isNullable = false →
        v.presence = some (.requiredWith (Path.join v.path.segments.dropLast))) := by
  have asked : ¬ (v.isItem = true ∨ v.segment ∉ v.listed) := by simp [named, there]
  have inside : ¬ v.ancestors.isEmpty = true := by simpa using below
  constructor
  · intro object
    rw [presence, if_neg asked, if_pos object]
  · intro other solid
    rw [presence, if_neg asked, if_neg other, if_neg (by simp [solid]), if_pos inside]

/-- A property with a required binding is asked for where its container is merged. -/
theorem presence_merged_of_isBoundRequired (step : v ∈ u.children) (sound : v.fault? = none)
    (named : v.isItem = false) (bound : v.node.facets.isBoundRequired = true) :
    (v.node.kind = some .object → v.merged.presence = some .present) ∧
      (v.node.kind ≠ some .object → v.merged.node.isNullable = false →
        v.merged.presence =
          some (.requiredWith (Path.join v.merged.path.segments.dropLast))) := by
  obtain ⟨old, name⟩ := Option.ne_none_iff_exists'.mp ((fault?_eq_none_iff.mp sound).1 named)
  have kind : v.merged.node.kind = v.node.kind := by rw [node_merged, Schema.kind_merged]
  have below : v.merged.ancestors ≠ [] := by
    rw [ancestors_merged, ancestors_of_mem_children step]
    exact List.cons_ne_nil _ _
  rw [← kind]
  exact presence_of_mem_listed ((isItem_merged v).trans named) below
    (mem_listed_merged step named bound name)

/-- A site is only ever required with its own container. -/
theorem eq_of_presence_eq_requiredWith {q : String} (h : v.presence = some (.requiredWith q)) :
    q = Path.join v.path.segments.dropLast := by
  rw [presence] at h
  split at h
  · cases h
  · split at h
    · cases h
    · split at h
      · cases h
      · split at h
        · cases h
          rfl
        · split at h <;> cases h

theorem presence_of_item (item : v.isItem = true) : v.presence = none := by
  rw [presence, if_pos (Or.inl item)]

/-- A way is made of wildcards and of the names of its site and of the sites above. -/
theorem mem_trail {segment : String} (h : segment ∈ v.trail) :
    segment = Path.anyIndex ∨ ∃ u ∈ v :: v.ancestors, u.isItem = false ∧ segment = u.segment := by
  have further {w : Site} (above : segment = Path.anyIndex ∨
      ∃ u ∈ w :: w.ancestors, u.isItem = false ∧ segment = u.segment) (v : Site) :
      segment = Path.anyIndex ∨
        ∃ u ∈ v :: w :: w.ancestors, u.isItem = false ∧ segment = u.segment :=
    above.imp_right fun ⟨u, hu, found⟩ => ⟨u, List.mem_cons_of_mem _ hu, found⟩
  induction v with
  | top container required s =>
    exact Or.inr ⟨_, List.mem_cons_self, rfl, List.mem_singleton.mp h⟩
  | property parent s ih =>
    rcases List.mem_append.mp h with h | h
    · exact further (ih h) _
    · exact Or.inr ⟨_, List.mem_cons_self, rfl, List.mem_singleton.mp h⟩
  | field array items s ih =>
    rcases List.mem_append.mp h with h | h
    · exact further (ih h) _
    · rcases List.mem_cons.mp h with h | h
      · exact Or.inl h
      · exact Or.inr ⟨_, List.mem_cons_self, rfl, List.mem_singleton.mp h⟩
  | anyItem array i ih =>
    rcases List.mem_append.mp h with h | h
    · exact further (ih h) _
    · exact Or.inl (List.mem_singleton.mp h)

/-- A merged path is made of wildcards and merged names. -/
theorem mem_segments_merged {segment : String} (front : v.front = Path.root)
    (named : ∀ u ∈ v :: v.ancestors, u.isItem = false → u.node.name? ≠ none)
    (h : segment ∈ v.merged.path.segments) :
    segment = Path.anyIndex ∨ ∃ u ∈ v :: v.ancestors, u.isItem = false ∧
      ∃ old, u.node.name? = some old ∧ segment = u.node.facets.boundName.getD old := by
  rw [segments_of_front ((front_merged v).trans front)] at h
  refine (mem_trail h).imp_right ?_
  rintro ⟨w, hw, plain, rfl⟩
  have chain : v.merged :: v.merged.ancestors = (v :: v.ancestors).map merged := by
    rw [ancestors_merged, List.map_cons]
  rw [chain] at hw
  obtain ⟨u, hu, rfl⟩ := List.mem_map.mp hw
  rw [isItem_merged] at plain
  obtain ⟨old, name⟩ := Option.ne_none_iff_exists'.mp (named u hu plain)
  exact ⟨u, hu, plain, old, name, segment_merged plain name⟩

/-! ## The same site without the bindings of items -/

theorem key_mergedWithoutItemBindings (v : Site) :
    v.mergedWithoutItemBindings.key = v.merged.key :=
  congrArg Path.key (path_recast_congr Schema.name?_merged_withoutItemBindings v)

theorem requiredSet_mergedWithoutItemBindings (v : Site) :
    v.mergedWithoutItemBindings.node.facets.requiredSet = v.merged.node.facets.requiredSet := by
  cases v with
  | anyItem array i => exact Schema.requiredSet_merged_unbound i
  | _ => exact congrArg Facets.requiredSet (Schema.facets_merged_withoutItemBindings _)

/-- A named site is in the same position. -/
theorem position_mergedWithoutItemBindings (named : v.isItem = false) :
    v.mergedWithoutItemBindings.position = v.merged.position := by
  have container : v.mergedWithoutItemBindings.container = v.merged.container :=
    container_recast_congr Schema.name?_merged_withoutItemBindings v
  have node : v.mergedWithoutItemBindings.node.facets = v.merged.node.facets := by
    rw [mergedWithoutItemBindings, node_recast_of_named named, merged, node_recast_of_named named]
    exact Schema.facets_merged_withoutItemBindings v.node
  have segment : v.mergedWithoutItemBindings.segment = v.merged.segment := by
    rw [segment, segment, isItem_merged, mergedWithoutItemBindings, isItem_recast, named,
      Schema.name?, ← mergedWithoutItemBindings, node, Schema.name?]
  have listed : v.mergedWithoutItemBindings.listed = v.merged.listed := by
    cases v with
    | top container required s => rfl
    | property parent s => exact requiredSet_mergedWithoutItemBindings parent
    | field array items s => exact Schema.requiredSet_merged_unbound items
    | anyItem array i => rfl
  have item : v.mergedWithoutItemBindings.isItem = v.merged.isItem := by
    rw [isItem_merged, mergedWithoutItemBindings, isItem_recast]
  rw [position, position, container, segment, node, listed, item]

end Site

/-! ## The rules of a merged tree -/

namespace Schema

open Site

section Tree

variable {s : Schema} {container : Path} {required : NameSet} {resolve : Resolver}
  {set : RuleSet}

/-- The sites of a merged tree are the merged sites of the tree. -/
theorem preorder_merged (s : Schema) (container : Path) (required : NameSet) :
    (top container required s.merged).preorder =
      (top container required s).preorder.map Site.merged :=
  preorder_recast mergeRecast id (isSingle_top container required s)

theorem keys_of_merged_rules (plain : s.merged.PlainNames)
    (compiled : s.merged.rules resolve container required = .ok set) :
    set.keys = (top container required s).preorder.map fun v => v.merged.key := by
  rw [keys_of_rules plain compiled, preorder_merged, List.map_map]
  rfl

/-- Every site has the entry of its merged site. -/
theorem get?_of_merged_rules (plain : s.merged.PlainNames)
    (compiled : s.merged.rules resolve container required = .ok set) :
    ∀ v ∈ (top container required s).preorder,
      set.get? v.merged.key = some (v.merged.ruleEntry resolve).2 := by
  intro v hv
  have filed : v.merged.ruleEntry resolve ∈ set.entries := by
    rw [entries_of_rules plain compiled, preorder_merged]
    exact List.mem_map_of_mem (List.mem_map_of_mem hv)
  rw [← fst_ruleEntry resolve v.merged]
  exact Table.get?_of_mem_entries filed

/-- Where merging leaves a tree that has rules, no site was at fault before. -/
theorem sound_of_merged_rules (compiled : s.merged.rules resolve container required = .ok set) :
    ∀ v ∈ (top container required s).preorder, v.fault? = none := by
  intro v hv
  have single := isSingle_of_mem_preorder (isSingle_top container required s) hv
  have sound := (rules_eq_ok_iff.mp compiled).1
  rw [preorder_merged] at sound
  exact (fault?_recast_eq_none_iff single name?_merged_eq_none_iff).mp
    (sound v.merged (List.mem_map_of_mem hv))

/-- A tree that is merged without the bindings of its item schemas has the same keys,
and the same entries but for the wildcards. -/
theorem rules_withoutItemBindings (plain : s.merged.PlainNames)
    (compiled : s.merged.rules resolve container required = .ok set) :
    ∃ other, s.withoutItemBindings.merged.rules resolve container required = .ok other ∧
      other.keys = set.keys ∧
      ∀ v ∈ (top container required s).preorder, v.isItem = false →
        other.get? v.merged.key = set.get? v.merged.key := by
  have top_single := isSingle_top container required s
  have sites : (top container required s.withoutItemBindings.merged).preorder =
      (top container required s).preorder.map mergedWithoutItemBindings :=
    preorder_recast (mergeRecast.comp itemBindingRecast) id top_single
  have unnamed (t : Schema) : t.withoutItemBindings.merged.name? = none ↔ t.name? = none := by
    rw [name?_merged_eq_none_iff, name?, facets_withoutItemBindings, name?]
  have sound : ∀ w ∈ (top container required s.withoutItemBindings.merged).preorder,
      w.fault? = none := by
    intro w hw
    rw [sites] at hw
    obtain ⟨v, hv, rfl⟩ := List.mem_map.mp hw
    exact (fault?_recast_eq_none_iff (isSingle_of_mem_preorder top_single hv) unnamed).mpr
      (sound_of_merged_rules compiled v hv)
  obtain ⟨other, compiled_other⟩ : ∃ other,
      s.withoutItemBindings.merged.rules resolve container required = .ok other :=
    ⟨_, rules_eq_ok_iff.mpr ⟨sound, rfl⟩⟩
  have keys : ((top container required s.withoutItemBindings.merged).preorder.map
      (ruleEntry resolve)).map Prod.fst = set.keys := by
    rw [map_fst_ruleEntry, sites, List.map_map, keys_of_merged_rules plain compiled]
    exact List.map_congr_left fun v _ => key_mergedWithoutItemBindings v
  have entries : other.entries =
      (top container required s.withoutItemBindings.merged).preorder.map (ruleEntry resolve) := by
    rw [← (rules_eq_ok_iff.mp compiled_other).2]
    exact Table.entries_ofFirst_of_nodup (keys ▸ set.nodup)
  refine ⟨other, compiled_other, ?_, fun v hv named => ?_⟩
  · rw [Table.keys, entries, keys]
  · have filed : v.mergedWithoutItemBindings.ruleEntry resolve ∈ other.entries := by
      rw [entries, sites]
      exact List.mem_map_of_mem (List.mem_map_of_mem hv)
    have same : v.mergedWithoutItemBindings.ruleEntry resolve = v.merged.ruleEntry resolve := by
      rw [ruleEntry, position_mergedWithoutItemBindings named, ruleEntry]
    rw [get?_of_merged_rules plain compiled v hv, ← fst_ruleEntry resolve v.merged, ← same]
    exact Table.get?_of_mem_entries filed

end Tree

variable {s : Schema} {enclosing required : NameSet} {resolve : Resolver} {set : RuleSet}

/-- In a merged tree with plain names a required binding below the top reaches the rules.
Every site has its entry under its merged path, and the entry of a property with a
required binding asks for it: an object has to be present, and anything else is required
with its container unless it may be null once merged.

Paths are made of wildcards and merged names, where the name of a binding takes the
place of the name before it, and a site is only ever required with its own container.
Other presence rules come from hints, and none from those that a registry resolves.

The binding of an item schema asks for nothing: wildcards have no presence rule but
for hints, and all other entries are the same without such bindings. -/
theorem required_bindings_reach_rules (plain : (s.merge enclosing).1.PlainNames)
    (compiled : (s.merge enclosing).1.rules resolve Path.root required = .ok set) :
    (set.keys = (top Path.root required s).preorder.map fun v => v.merged.key) ∧
    (∀ v ∈ (top Path.root required s).preorder,
      ∃ rules, set.get? v.merged.key = some rules ∧
        (v.ancestors ≠ [] → v.isItem = false → v.node.facets.isBoundRequired = true →
          (v.node.kind = some .object → .present ∈ rules) ∧
          (v.node.kind ≠ some .object → v.merged.node.isNullable = false →
            .requiredWith (Path.join v.merged.path.segments.dropLast) ∈ rules)) ∧
        (∀ q, .requiredWith q ∈ rules → q = Path.join v.merged.path.segments.dropLast ∨
          .requiredWith q ∈ v.merged.node.facets.spliced resolve) ∧
        (v.isItem = true → ∀ r ∈ rules, r.isPresence = true →
          r ∈ v.merged.node.facets.spliced resolve) ∧
        ∀ registry : Registry, resolve = registry.resolve →
          ∀ r ∈ v.merged.node.facets.spliced resolve, r.isPresence = false) ∧
    (∀ v ∈ (top Path.root required s).preorder,
      (∀ old, v.isItem = false → v.node.name? = some old →
        v.merged.segment = v.node.facets.boundName.getD old) ∧
      ∀ segment ∈ v.merged.path.segments, segment = Path.anyIndex ∨
        ∃ u ∈ v :: v.ancestors, u.isItem = false ∧
          ∃ old, u.node.name? = some old ∧ segment = u.node.facets.boundName.getD old) ∧
    ∃ other, (s.withoutItemBindings.merge enclosing).1.rules resolve Path.root required =
        .ok other ∧
      other.keys = set.keys ∧
      ∀ v ∈ (top Path.root required s).preorder, v.isItem = false →
        other.get? v.merged.key = set.get? v.merged.key := by
  rw [merge_fst] at plain compiled
  rw [merge_fst]
  have sound := sound_of_merged_rules compiled
  refine ⟨keys_of_merged_rules plain compiled, fun v hv => ?_, fun v hv => ⟨?_, ?_⟩,
    rules_withoutItemBindings plain compiled⟩
  · have front : v.merged.front = Path.root := (front_merged v).trans (front_of_mem_preorder hv)
    refine ⟨_, get?_of_merged_rules plain compiled v hv, ?_, ?_, ?_, ?_⟩
    · intro below named bound
      obtain ⟨parent, step⟩ := (eq_or_mem_children_of_mem_preorder hv).resolve_left
        fun same => below (congrArg ancestors same)
      obtain ⟨present, requiredWith⟩ :=
        presence_merged_of_isBoundRequired step (sound v hv) named bound
      constructor
      · intro object
        exact mem_ruleEntry_of_presence front resolve (present object)
      · intro other solid
        exact mem_ruleEntry_of_presence front resolve (requiredWith other solid)
    · intro q hq
      exact (presence_or_hint_of_mem_ruleEntry front hq rfl).imp_left
        eq_of_presence_eq_requiredWith
    · intro item r hr asks
      refine (presence_or_hint_of_mem_ruleEntry front hr asks).resolve_left fun asked => ?_
      rw [presence_of_item ((isItem_merged v).trans item)] at asked
      cases asked
    · rintro registry rfl
      exact registry.isPresence_of_mem_spliced _
  · intro old named name
    exact segment_merged named name
  · intro segment hs
    refine mem_segments_merged (front_of_mem_preorder hv) (fun u hu named => ?_) hs
    refine (fault?_eq_none_iff.mp (sound u ?_)).1 named
    rcases List.mem_cons.mp hu with rfl | above
    · exact hv
    · exact mem_preorder_of_mem_ancestors hv above

/-- The word of a search term, which is required and sent under another name. -/
def searchWord : Schema :=
  node { kind := some .string, key := some "word",
         binding := some { name := some "text", required := some true } } [] none

/-- A search term. Its binding has nothing to require it in. -/
def searchTerm : Schema :=
  node { kind := some .object, binding := some { name := some "term", required := some true } }
    [searchWord] none

/-- A filter with search terms. -/
def searchFilter : Schema :=
  node { kind := some .object, key := some "filter" }
    [node { kind := some .array, key := some "terms" } [] (some searchTerm)] none

/-- The word of each search term is required under the name it is sent under. -/
theorem word_of_searchFilter :
    ∃ set, (searchFilter.merge NameSet.empty).1.rules Registry.builtin.resolve Path.root
        NameSet.empty = .ok set ∧
      set.keys = ["filter", "filter.terms", "filter.terms.*.text"] ∧
      ∃ rules, set.get? "filter.terms.*.text" = some rules ∧
        .requiredWith "filter.terms.*" ∈ rules := by
  have plain : (searchFilter.merge NameSet.empty).1.PlainNames := by decide
  obtain ⟨set, compiled, keys⟩ : ∃ set, (searchFilter.merge NameSet.empty).1.rules
      Registry.builtin.resolve Path.root NameSet.empty = .ok set ∧
        set.keys = ["filter", "filter.terms", "filter.terms.*.text"] := ⟨_, rfl, rfl⟩
  obtain ⟨-, entries, -⟩ := required_bindings_reach_rules plain compiled
  have terms := mem_preorder_of_mem_children
    (mem_preorder_self (top Path.root NameSet.empty searchFilter)) List.mem_cons_self
  have word := mem_preorder_of_mem_children terms List.mem_cons_self
  obtain ⟨rules, found, reached, -⟩ := entries _ word
  obtain ⟨-, requiredWith⟩ := reached (List.cons_ne_nil _ _) rfl rfl
  exact ⟨set, compiled, keys, rules, found, requiredWith (by decide) rfl⟩

end Schema

end PayloadRules
