import PayloadRules.Proofs.Merge
import PayloadRules.Proofs.Site.Basic

/-!
# Places and the sites that stand there

A place (`List Turn`) leads to any node of a tree, whether a walk visits the node or not.
`Schema.modifyAt` changes what the node at a place says about itself and leaves the rest
of the tree as it is. `Site.at?` is the site that a walk finds at a place. Nothing is found
at the properties of an array, at the items of anything else, and at an item schema with
fields of its own, which stands for its fields alone.
-/

namespace PayloadRules

/-- One element of a list is changed, and the change is lost to a look at every element. -/
theorem map_modify_eq_map {α β : Type} {change : α → α} {look : α → β} {index : Nat} {xs : List α}
    (lost : ∀ x, xs[index]? = some x → look (change x) = look x) :
    (xs.modify index change).map look = xs.map look := by
  refine List.ext_getElem? fun j => ?_
  rw [List.getElem?_map, List.getElem?_map, List.getElem?_modify]
  cases found : xs[j]? with
  | none => rfl
  | some x =>
    by_cases there : index = j
    · subst there
      simpa using lost x found
    · simp [there]

namespace Schema

/-- The tree with the facets of the node at a place changed. -/
def modifyAt (change : Facets → Facets) : List Turn → Schema → Schema
  | [], s => s.modify change
  | .property index :: rest, node f ps i => node f (ps.modify index (modifyAt change rest)) i
  | .items :: rest, node f ps i => node f ps (i.map (modifyAt change rest))

section Parts

variable {change : Facets → Facets}

theorem facets_modifyAt_nil (s : Schema) : (s.modifyAt change []).facets = change s.facets := by
  cases s with
  | node f ps i => rfl

theorem properties_modifyAt_nil (s : Schema) :
    (s.modifyAt change []).properties = s.properties := by
  cases s with
  | node f ps i => rfl

/-- Above a place nodes say what they said. -/
theorem facets_modifyAt_cons (change : Facets → Facets) (s : Schema) (turn : Turn)
    (rest : List Turn) : (s.modifyAt change (turn :: rest)).facets = s.facets := by
  cases s with
  | node f ps i => cases turn <;> rfl

theorem properties_modifyAt_property (s : Schema) (index : Nat) (rest : List Turn) :
    (s.modifyAt change (.property index :: rest)).properties =
      s.properties.modify index (modifyAt change rest) := by
  cases s with
  | node f ps i => rfl

theorem properties_modifyAt_items (s : Schema) (rest : List Turn) :
    (s.modifyAt change (.items :: rest)).properties = s.properties := by
  cases s with
  | node f ps i => rfl

theorem items_modifyAt_property (s : Schema) (index : Nat) (rest : List Turn) :
    (s.modifyAt change (.property index :: rest)).items = s.items := by
  cases s with
  | node f ps i => rfl

theorem items_modifyAt_items (s : Schema) (rest : List Turn) :
    (s.modifyAt change (.items :: rest)).items = s.items.map (modifyAt change rest) := by
  cases s with
  | node f ps i => rfl

/-- What holds of the changed facets as of the facets holds of every node of the changed
tree as of the node. -/
theorem facet_modifyAt {α : Type} {look : Facets → α} (change : Facets → Facets)
    (kept : ∀ f, look (change f) = look f) (place : List Turn) (s : Schema) :
    look (s.modifyAt change place).facets = look s.facets := by
  cases place with
  | nil => rw [facets_modifyAt_nil, kept]
  | cons turn rest => rw [facets_modifyAt_cons]

/-- A change that keeps kinds neither gives nor takes fields. -/
theorem hasFields_modifyAt (change : Facets → Facets) (kept : ∀ f, (change f).kind = f.kind)
    (place : List Turn) (s : Schema) : (s.modifyAt change place).HasFields ↔ s.HasFields := by
  have kind : (s.modifyAt change place).kind = s.kind := facet_modifyAt change kept place s
  have properties : (s.modifyAt change place).properties = [] ↔ s.properties = [] := by
    match place with
    | [] => rw [properties_modifyAt_nil]
    | .property index :: rest => rw [properties_modifyAt_property, List.modify_eq_nil_iff]
    | .items :: rest => rw [properties_modifyAt_items]
  rw [HasFields, HasFields, kind, ne_eq, properties]

end Parts

end Schema

namespace Site

open Schema (Turn)

/-- The site at a place below a site, if a walk finds one there. -/
def at? (v : Site) : List Turn → Option Site
  | [] => some v
  | .property index :: rest =>
    if v.node.kind = some .array then none
    else v.node.properties[index]?.bind fun p => (property v p).at? rest
  | .items :: rest =>
    if v.node.kind = some .array then
      v.node.items.bind fun items =>
        if items.HasFields then
          match rest with
          | .property index :: rest =>
            items.properties[index]?.bind fun p => (field v items p).at? rest
          | _ => none
        else (anyItem v items).at? rest
    else none

section Steps

variable {v : Site} {items p : Schema} {index : Nat} {rest : List Turn}

theorem at?_property (other : v.node.kind ≠ some .array) (hp : v.node.properties[index]? = some p) :
    v.at? (.property index :: rest) = (property v p).at? rest := by
  rw [at?, if_neg other, hp, Option.bind_some]

theorem at?_field (array : v.node.kind = some .array) (hi : v.node.items = some items)
    (fields : items.HasFields) (hp : items.properties[index]? = some p) :
    v.at? (.items :: .property index :: rest) = (field v items p).at? rest := by
  rw [at?, if_pos array, hi, Option.bind_some, if_pos fields]
  simp only [hp, Option.bind_some]

end Steps

/-- A site that is found at a place stands in the tree, and its node is the one that the
place leads to. -/
theorem of_at?_eq_some : ∀ {place : List Turn} {v u : Site}, v.at? place = some u →
    u ∈ v.preorder ∧ v.node.at? place = some u.node
  | [], v, u, h => by
    cases h
    exact ⟨mem_preorder_self v, rfl⟩
  | .property index :: rest, v, u, h => by
    rw [at?] at h
    split at h
    · cases h
    · next other =>
      obtain ⟨p, hp, h⟩ := Option.bind_eq_some_iff.mp h
      obtain ⟨below, node⟩ := of_at?_eq_some h
      have child : property v p ∈ v.children := by
        rw [children_of_not_array other]
        exact List.mem_map_of_mem (List.mem_of_getElem? hp)
      refine ⟨mem_preorder_of_mem_child child below, ?_⟩
      rw [Schema.at?, Schema.below?, hp, Option.bind_some]
      exact node
  | .items :: rest, v, u, h => by
    rw [at?] at h
    split at h
    · next array =>
      obtain ⟨items, hi, h⟩ := Option.bind_eq_some_iff.mp h
      rw [Schema.at?, Schema.below?, hi, Option.bind_some]
      split at h
      · next fields =>
        cases rest with
        | nil => cases h
        | cons turn rest =>
          cases turn with
          | items => cases h
          | property index =>
            obtain ⟨p, hp, h⟩ := Option.bind_eq_some_iff.mp h
            obtain ⟨below, node⟩ := of_at?_eq_some h
            have child : field v items p ∈ v.children := by
              rw [children_of_fields array hi (Schema.itemProperties_eq_some_iff.mpr ⟨fields, rfl⟩)]
              exact List.mem_map_of_mem (List.mem_of_getElem? hp)
            refine ⟨mem_preorder_of_mem_child child below, ?_⟩
            rw [Schema.at?, Schema.below?, hp, Option.bind_some]
            exact node
      · next bare =>
        obtain ⟨below, node⟩ := of_at?_eq_some h
        have child : anyItem v items ∈ v.children := by
          rw [children_of_single array hi (Schema.itemProperties_eq_none_iff.mpr bare)]
          exact List.mem_singleton_self _
        exact ⟨mem_preorder_of_mem_child child below, node⟩
    · cases h

end Site

end PayloadRules
