import Mathlib.Data.List.Basic
import PayloadRules.Proofs.Site.Basic

/-!
# Changes that keep the sites of a tree

A recast changes the schemas of a tree and leaves its sites where they are. What it
makes of a node with a name of its own and what it makes of an item schema may
differ, and it is held to account only where a walk looks: at the kind, at the
properties of anything but an array, at the items of an array.

So the sites of the changed tree are the changed sites of the tree, in the same order
(`Site.preorder_recast`), and what is said of the one can be read off the other site
by site. Merging bindings is a recast; so is leaving out all that no walk visits.
-/

namespace PayloadRules

/-- A change of schemas that keeps the sites of a tree. -/
structure Recast where
  /-- What is made of a node with a name of its own. -/
  named : Schema → Schema
  /-- What is made of an item schema. -/
  item : Schema → Schema
  kind_named : ∀ s, (named s).kind = s.kind
  properties_named : ∀ s, s.kind ≠ some .array → (named s).properties = s.properties.map named
  items_named : ∀ s, s.kind = some .array → (named s).items = s.items.map item
  fields_item : ∀ i, (item i).itemProperties = i.itemProperties.map (List.map named)
  kind_item : ∀ i, i.itemProperties = none → (item i).kind = i.kind
  items_item : ∀ i, i.itemProperties = none → i.kind = some .array →
    (item i).items = i.items.map item

namespace Recast

/-- The fields of an item schema change with its properties when its kind stays. -/
theorem itemProperties_of_shape {change : Schema → Schema} {i j : Schema}
    (kind : j.kind = i.kind) (properties : j.properties = i.properties.map change) :
    j.itemProperties = i.itemProperties.map (List.map change) := by
  have fields : j.HasFields ↔ i.HasFields := by
    rw [Schema.HasFields, Schema.HasFields, kind, properties, ne_eq, List.map_eq_nil_iff]
  cases own : i.itemProperties with
  | some ps =>
    obtain ⟨has, rfl⟩ := Schema.itemProperties_eq_some_iff.mp own
    exact Schema.itemProperties_eq_some_iff.mpr ⟨fields.mpr has, properties⟩
  | none =>
    have bare := Schema.itemProperties_eq_none_iff.mp own
    exact Schema.itemProperties_eq_none_iff.mpr fun has => bare (fields.mp has)

/-- The recast that changes nothing. -/
protected def refl : Recast where
  named := id
  item := id
  kind_named _ := rfl
  properties_named _ _ := (List.map_id _).symm
  items_named s _ := congrFun Option.map_id.symm s.items
  fields_item _ := itemProperties_of_shape rfl (List.map_id _).symm
  kind_item _ _ := rfl
  items_item i _ _ := congrFun Option.map_id.symm i.items

/-- One recast after another. -/
def comp (d c : Recast) : Recast where
  named s := d.named (c.named s)
  item i := d.item (c.item i)
  kind_named s := (d.kind_named _).trans (c.kind_named s)
  properties_named s h := by
    rw [d.properties_named _ (c.kind_named s ▸ h), c.properties_named s h, List.map_map]
    rfl
  items_named s h := by
    rw [d.items_named _ (c.kind_named s ▸ h), c.items_named s h, Option.map_map]
    rfl
  fields_item i := by
    have lists : List.map d.named ∘ List.map c.named = List.map fun s => d.named (c.named s) :=
      funext fun ps => List.map_map
    rw [d.fields_item, c.fields_item, Option.map_map, lists]
  kind_item i h := by
    have single : (c.item i).itemProperties = none := by rw [c.fields_item, h]; rfl
    exact (d.kind_item _ single).trans (c.kind_item i h)
  items_item i h array := by
    have single : (c.item i).itemProperties = none := by rw [c.fields_item, h]; rfl
    rw [d.items_item _ single (c.kind_item i h ▸ array), c.items_item i h array, Option.map_map]
    rfl

end Recast

namespace Site

/-- The site in the changed tree, where other names may be required around the top. -/
def recast (c : Recast) (around : NameSet → NameSet) : Site → Site
  | top container required s => top container (around required) (c.named s)
  | property parent s => property (parent.recast c around) (c.named s)
  | field array items s => field (array.recast c around) (c.item items) (c.named s)
  | anyItem array i => anyItem (array.recast c around) (c.item i)

section Sites

variable {c d : Recast} {around : NameSet → NameSet}

theorem node_recast_of_named {v : Site} (named : v.isItem = false) :
    (v.recast c around).node = c.named v.node := by
  cases v with
  | anyItem array i => cases named
  | _ => rfl

theorem node_recast_of_item {v : Site} (item : v.isItem = true) :
    (v.recast c around).node = c.item v.node := by
  cases v with
  | anyItem array i => rfl
  | _ => cases item

@[simp]
theorem isItem_recast (v : Site) : (v.recast c around).isItem = v.isItem := by
  cases v <;> rfl

theorem ancestors_recast (v : Site) :
    (v.recast c around).ancestors = v.ancestors.map (recast c around) := by
  induction v with
  | top container required s => rfl
  | property parent s ih => exact congrArg (_ :: ·) ih
  | field array items s ih => exact congrArg (_ :: ·) ih
  | anyItem array i ih => exact congrArg (_ :: ·) ih

theorem recast_refl (v : Site) : v.recast .refl id = v := by
  induction v with
  | top container required s => rfl
  | property parent s ih => exact congrArg (property · s) ih
  | field array items s ih => exact congrArg (field · items s) ih
  | anyItem array i ih => exact congrArg (anyItem · i) ih

/-! ## The course of a walk -/

/-- Whether a site that is an item is a single value. All sites of a tree are. -/
def IsSingle (v : Site) : Prop := v.isItem = true → v.node.itemProperties = none

theorem isSingle_of_mem_children {u v : Site} (h : u ∈ v.children) : u.IsSingle := by
  intro item
  obtain ⟨-, p, -, rfl⟩ | ⟨-, i, -, ⟨fields, -, p, -, rfl⟩ | ⟨single, rfl⟩⟩ := mem_children h
  · cases item
  · cases item
  · exact single

theorem isSingle_of_mem_preorder {v w : Site} (single : v.IsSingle) (h : w ∈ v.preorder) :
    w.IsSingle :=
  forall_mem_preorder (P := IsSingle) (fun _ _ _ hu => isSingle_of_mem_children hu) single w h

variable (c around) {v : Site}

theorem kind_recast (single : v.IsSingle) : (v.recast c around).node.kind = v.node.kind := by
  cases item : v.isItem with
  | false => rw [node_recast_of_named item, c.kind_named]
  | true => rw [node_recast_of_item item, c.kind_item _ (single item)]

theorem properties_recast (single : v.IsSingle) (other : v.node.kind ≠ some .array) :
    (v.recast c around).node.properties = v.node.properties.map c.named := by
  cases item : v.isItem with
  | false => rw [node_recast_of_named item, c.properties_named _ other]
  | true =>
    have bare (i : Schema) (h : i.itemProperties = none) : i.properties = [] :=
      (Schema.not_hasFields_iff.mp (Schema.itemProperties_eq_none_iff.mp h)).2
    have changed : (c.item v.node).itemProperties = none := by
      rw [c.fields_item, single item]
      rfl
    rw [node_recast_of_item item, bare _ changed, bare _ (single item)]
    rfl

theorem items_recast (single : v.IsSingle) (array : v.node.kind = some .array) :
    (v.recast c around).node.items = v.node.items.map c.item := by
  cases item : v.isItem with
  | false => rw [node_recast_of_named item, c.items_named _ array]
  | true => rw [node_recast_of_item item, c.items_item _ (single item) array]

/-- One step down leads to the changed children. -/
theorem children_recast (single : v.IsSingle) :
    (v.recast c around).children = v.children.map (recast c around) := by
  have kind := kind_recast c around single
  by_cases array : v.node.kind = some .array
  · have items := items_recast c around single array
    cases hi : v.node.items with
    | none =>
      rw [hi] at items
      rw [children_of_no_items array hi, children_of_no_items (kind.trans array) items]
      rfl
    | some i =>
      rw [hi] at items
      have own := c.fields_item i
      cases hf : i.itemProperties with
      | some fields =>
        rw [hf] at own
        rw [children_of_fields array hi hf, children_of_fields (kind.trans array) items own,
          List.map_map, List.map_map]
        rfl
      | none =>
        rw [hf] at own
        rw [children_of_single array hi hf, children_of_single (kind.trans array) items own]
        rfl
  · rw [children_of_not_array array, children_of_not_array (kind ▸ array),
      properties_recast c around single array, List.map_map, List.map_map]
    rfl

/-- The sites of the changed tree are the changed sites, in the same order. -/
theorem preorder_recast (single : v.IsSingle) :
    (v.recast c around).preorder = v.preorder.map (recast c around) := by
  induction v using children_induction with
  | step v ih =>
    rw [preorder_eq, preorder_eq, children_recast c around single, List.map_cons,
      List.map_flatMap, List.flatMap_map]
    refine congrArg (_ :: ·) (List.flatMap_congr fun u hu => ?_)
    exact ih u hu (isSingle_of_mem_children hu)

theorem isSingle_top (container : Path) (required : NameSet) (s : Schema) :
    (top container required s).IsSingle := fun item => (nomatch item)

/-! ## What is read off the way -/

variable {c around}

/-- The path of a site is made of names alone. -/
theorem path_recast_congr {elsewhere : NameSet → NameSet}
    (names : ∀ s, (c.named s).name? = (d.named s).name?) (v : Site) :
    (v.recast c around).path = (v.recast d elsewhere).path := by
  induction v with
  | top container required s => simp only [recast, path, names]
  | property parent s ih => simp only [recast, path, names, ih]
  | field array items s ih => simp only [recast, path, names, ih]
  | anyItem array i ih => simp only [recast, path, ih]

theorem path_recast_of_names (names : ∀ s, (c.named s).name? = s.name?) (v : Site) :
    (v.recast c around).path = v.path := by
  have same : (v.recast c around).path = (v.recast .refl id).path := path_recast_congr names v
  rw [same, recast_refl]

theorem container_recast_congr {elsewhere : NameSet → NameSet}
    (names : ∀ s, (c.named s).name? = (d.named s).name?) (v : Site) :
    (v.recast c around).container = (v.recast d elsewhere).container := by
  cases v with
  | top container required s => rfl
  | property parent s => exact path_recast_congr names parent
  | field array items s => exact congrArg Path.wildcard (path_recast_congr names array)
  | anyItem array i => exact path_recast_congr names array

theorem container_recast_of_names (names : ∀ s, (c.named s).name? = s.name?) (v : Site) :
    (v.recast c around).container = v.container := by
  have same : (v.recast c around).container = (v.recast .refl id).container :=
    container_recast_congr names v
  rw [same, recast_refl]

/-- A site is without fault before a change as after it, when no name comes or goes. -/
theorem fault?_recast_eq_none_iff (single : v.IsSingle)
    (names : ∀ s, (c.named s).name? = none ↔ s.name? = none) :
    (v.recast c around).fault? = none ↔ v.fault? = none := by
  rw [fault?_eq_none_iff, fault?_eq_none_iff, isItem_recast, kind_recast c around single]
  refine and_congr (imp_congr_right fun named => ?_) (imp_congr_right fun array => ?_)
  · rw [node_recast_of_named named, ne_eq, names]
  · rw [items_recast c around single array, ne_eq, Option.map_eq_none_iff]

end Sites

end Site

end PayloadRules
