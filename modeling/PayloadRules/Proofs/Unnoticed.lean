import PayloadRules.Proofs.Site.Places
import PayloadRules.Proofs.Verdict

/-!
# Changes that no walk notices

A walk over a tree finds its way by kinds, by names and by required lists, and what it files
is rules. A change of facets that keeps these is not noticed (`Unnoticed`), wherever it is
made: the changed tree has the same rules or the same error (`Schema.rules_mapFacets`).

Changes of this sort serve as erasures. Two trees that differ at one place only, in
something an erasure takes out, have the same erased tree (`Schema.mapFacets_modifyAt`).
-/

namespace PayloadRules

/-! ## Trees with changed facets -/

namespace Schema

mutual

/-- The tree with the facets of every node changed. -/
def mapFacets (change : Facets → Facets) : Schema → Schema
  | node f properties items =>
    node (change f) (mapFacetsAll change properties) (mapFacetsBelow change items)

def mapFacetsAll (change : Facets → Facets) : List Schema → List Schema
  | [] => []
  | s :: rest => mapFacets change s :: mapFacetsAll change rest

def mapFacetsBelow (change : Facets → Facets) : Option Schema → Option Schema
  | none => none
  | some i => some (mapFacets change i)

end

section Parts

variable (change : Facets → Facets) (s : Schema)

theorem mapFacetsAll_eq_map (ps : List Schema) :
    mapFacetsAll change ps = ps.map (mapFacets change) := by
  induction ps with
  | nil => rfl
  | cons p ps ih => rw [mapFacetsAll, ih, List.map_cons]

theorem mapFacetsBelow_eq_map (i : Option Schema) :
    mapFacetsBelow change i = i.map (mapFacets change) := by
  cases i <;> rw [mapFacetsBelow] <;> rfl

theorem mapFacets_node (f : Facets) (ps : List Schema) (i : Option Schema) :
    (node f ps i).mapFacets change =
      node (change f) (ps.map (mapFacets change)) (i.map (mapFacets change)) := by
  rw [mapFacets, mapFacetsAll_eq_map, mapFacetsBelow_eq_map]

theorem facets_mapFacets : (s.mapFacets change).facets = change s.facets := by
  cases s
  rw [mapFacets_node, facets, facets]

theorem properties_mapFacets :
    (s.mapFacets change).properties = s.properties.map (mapFacets change) := by
  cases s
  rw [mapFacets_node, properties, properties]

theorem items_mapFacets : (s.mapFacets change).items = s.items.map (mapFacets change) := by
  cases s
  rw [mapFacets_node, items, items]

end Parts

/-- A change at one place is lost when what is made of the facets there is the same
afterwards. The recursion is along the place. -/
theorem mapFacets_modifyAt {change erase : Facets → Facets} : ∀ (place : List Turn) (s : Schema),
    (∀ n, s.at? place = some n → erase (change n.facets) = erase n.facets) →
    (s.modifyAt change place).mapFacets erase = s.mapFacets erase
  | [], node f ps i, same => by
    have here : erase (change f) = erase f := same _ rfl
    rw [modifyAt, modify, mapFacets_node, mapFacets_node, here]
  | .property index :: rest, node f ps i, same => by
    have there (p : Schema) (hp : ps[index]? = some p) :
        (p.modifyAt change rest).mapFacets erase = p.mapFacets erase := by
      refine mapFacets_modifyAt rest p fun n hn => same n ?_
      rw [at?, below?, properties, hp, Option.bind_some, hn]
    rw [modifyAt, mapFacets_node, mapFacets_node, map_modify_eq_map there]
  | .items :: rest, node f ps i, same => by
    have there (p : Schema) (hp : i = some p) :
        (p.modifyAt change rest).mapFacets erase = p.mapFacets erase := by
      refine mapFacets_modifyAt rest p fun n hn => same n ?_
      rw [at?, below?, items, hp, Option.bind_some, hn]
    rw [modifyAt, mapFacets_node, mapFacets_node, Option.map_map]
    exact congrArg (node _ _) (Option.map_congr there)

/-- A change of facets keeps the sites of a tree when it keeps kinds. -/
def facetsRecast (change : Facets → Facets) (kind : ∀ f, (change f).kind = f.kind) : Recast where
  named := mapFacets change
  item := mapFacets change
  kind_named s := by rw [Schema.kind, facets_mapFacets, kind, Schema.kind]
  properties_named s _ := properties_mapFacets change s
  items_named s _ := items_mapFacets change s
  fields_item i := by
    refine Recast.itemProperties_of_shape ?_ (properties_mapFacets change i)
    rw [Schema.kind, facets_mapFacets, kind, Schema.kind]
  kind_item s _ := by rw [Schema.kind, facets_mapFacets, kind, Schema.kind]
  items_item i _ _ := items_mapFacets change i

end Schema

/-- A change of facets that no walk notices: it keeps what a walk finds its way by, and no
rule depends on it. -/
structure Unnoticed (change : Facets → Facets) (resolve : Resolver) : Prop where
  kind : ∀ f, (change f).kind = f.kind
  name : ∀ f, (change f).name? = f.name?
  required : ∀ f, (change f).required = f.required
  rules : ∀ p : Position,
    { p with facets := change p.facets : Position }.rules resolve = p.rules resolve

namespace Unnoticed

variable {change : Facets → Facets} {resolve : Resolver} (unnoticed : Unnoticed change resolve)

/-- The sites of a tree where nothing noticeable is changed. -/
abbrev recast : Recast := Schema.facetsRecast change unnoticed.kind

theorem facets_recast (v : Site) :
    (v.recast unnoticed.recast id).node.facets = change v.node.facets := by
  cases v <;> exact Schema.facets_mapFacets change _

theorem name?_recast (s : Schema) : (unnoticed.recast.named s).name? = s.name? := by
  show (s.mapFacets change).name? = s.name?
  rw [Schema.name?, Schema.facets_mapFacets, unnoticed.name, Schema.name?]

theorem listed_recast (v : Site) : (v.recast unnoticed.recast id).listed = v.listed := by
  cases v with
  | top container required s => rfl
  | property parent s =>
    show NameSet.ofDeclared (parent.recast unnoticed.recast id).node.facets.required = _
    rw [unnoticed.facets_recast, unnoticed.required]
    rfl
  | field array items s =>
    show NameSet.ofDeclared (items.mapFacets change).facets.required = _
    rw [Schema.facets_mapFacets, unnoticed.required]
    rfl
  | anyItem array i => rfl

/-- A site is in the same position, but for what the node says. -/
theorem position_recast (v : Site) :
    (v.recast unnoticed.recast id).position =
      { v.position with facets := change v.node.facets } := by
  have container : (v.recast unnoticed.recast id).container = v.container :=
    Site.container_recast_of_names unnoticed.name?_recast v
  have segment : (v.recast unnoticed.recast id).segment = v.segment := by
    rw [Site.segment, Site.segment, Site.isItem_recast, Schema.name?, unnoticed.facets_recast,
      unnoticed.name, ← Schema.name?]
  rw [Site.position, container, segment, unnoticed.facets_recast, unnoticed.listed_recast,
    Site.isItem_recast]
  rfl

theorem ruleEntry_recast (v : Site) :
    (v.recast unnoticed.recast id).ruleEntry resolve = v.ruleEntry resolve := by
  have rules := unnoticed.rules v.position
  rw [Site.ruleEntry, unnoticed.position_recast]
  exact congrArg (Prod.mk v.position.key) rules

end Unnoticed

namespace Schema

open Site

/-- What no walk notices changes neither the rules nor the error. -/
theorem rules_mapFacets {change : Facets → Facets} {resolve : Resolver}
    (unnoticed : Unnoticed change resolve) (s : Schema) (container : Path) (required : NameSet) :
    (s.mapFacets change).rules resolve container required =
      s.rules resolve container required := by
  have faults : (top container required (s.mapFacets change)).preorder.findSome? fault? =
      (top container required s).preorder.findSome? fault? :=
    findSome?_fault?_recast unnoticed.name?_recast id s container required
  have entries : (top container required (s.mapFacets change)).preorder.map (ruleEntry resolve) =
      (top container required s).preorder.map (ruleEntry resolve) := by
    have sites : (top container required (s.mapFacets change)).preorder =
        (top container required s).preorder.map (Site.recast unnoticed.recast id) :=
      preorder_recast unnoticed.recast id (isSingle_top container required s)
    rw [sites, List.map_map]
    exact List.map_congr_left fun v _ => unnoticed.ruleEntry_recast v
  cases compiled : s.rules resolve container required with
  | error e =>
    rw [rules_eq_error_iff] at compiled ⊢
    rw [faults, compiled]
  | ok set =>
    obtain ⟨sound, filed⟩ := rules_eq_ok_iff.mp compiled
    refine rules_eq_ok_iff.mpr ⟨?_, by rw [entries, filed]⟩
    rw [← List.findSome?_eq_none_iff] at sound ⊢
    rw [faults, sound]

end Schema

end PayloadRules
