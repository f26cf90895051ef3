import PayloadRules.Proofs.Merge

/-!
# Merged trees

A merge takes a tree to one that has no bindings left. It neither adds nor drops a node,
nor does it move one or change its kind or its property key; the name of a node changes
only to the name that its binding gives.

A tree without bindings is in normal form: it asks for nothing around it, and the merge
leaves it as it is. No required list of it grows, and a list that has not grown is not
written back, so that even what it repeats stays. A merged tree is in normal form
(`Schema.unbound_merged`), and a normal form is merged to itself
(`Schema.merge_of_unbound`). Hence merging once more changes nothing.
-/

namespace PayloadRules

namespace Facets

variable (f : Facets)

theorem key_merged : f.merged.key = f.key := by
  cases h : f.binding with
  | none => rw [merged_of_unbound h]
  | some b => rw [merged_of_bound h, mergeBinding]

/-- Merging detaches the binding, whether there is one or not. -/
theorem binding_merged : f.merged.binding = none := by
  cases h : f.binding with
  | none => rw [merged_of_unbound h, h]
  | some b => rw [merged_of_bound h, mergeBinding]

theorem key_withRequired (required : NameSet) : (f.withRequired required).key = f.key := by
  unfold withRequired
  split <;> rfl

theorem binding_withRequired (required : NameSet) :
    (f.withRequired required).binding = f.binding := by
  unfold withRequired
  split <;> rfl

/-- What has no binding asks for nothing. -/
theorem asked_of_unbound {f : Facets} (h : f.binding = none) : f.asked = none := by
  unfold asked isBoundRequired
  rw [h]
  rfl

end Facets

namespace Schema

/-! ## Trees without bindings -/

/-- Whether no node of a tree has a binding attached. -/
def Unbound (s : Schema) : Prop :=
  ∀ place n, s.at? place = some n → n.facets.binding = none

namespace Unbound

variable {s : Schema} (free : s.Unbound)

include free

theorem of_below {next : Schema} {turn : Turn} (h : s.below? turn = some next) :
    next.Unbound := by
  intro place n stands
  apply free (turn :: place) n
  rw [at?, h, Option.bind_some, stands]

theorem of_mem_properties {p : Schema} (h : p ∈ s.properties) : p.Unbound := by
  obtain ⟨index, here⟩ := List.getElem?_of_mem h
  exact of_below free (show s.below? (.property index) = some p from here)

theorem of_items {i : Schema} (h : s.items = some i) : i.Unbound :=
  of_below free (show s.below? .items = some i from h)

theorem asked_eq_none : s.asked = none := Facets.asked_of_unbound (free [] s rfl)

end Unbound

/-- A tree without bindings is left as it is. -/
theorem merged_of_unbound {s : Schema} (free : s.Unbound) : s.merged = s := by
  induction s using tree_induction with
  | step s properties items =>
    obtain ⟨f, ps, i⟩ := s
    have own : f.merged = f := Facets.merged_of_unbound (free [] _ rfl)
    have asks : ps.filterMap asked = [] := by
      rw [List.filterMap_eq_nil_iff]
      intro p hp
      exact (free.of_mem_properties hp).asked_eq_none
    have each : ps.map merged = ps := calc
      ps.map merged = ps.map id :=
        List.map_congr_left fun p hp => properties p hp (free.of_mem_properties hp)
      _ = ps := List.map_id ps
    have item : i.map merged = i := by
      cases i with
      | none => rfl
      | some i => exact congrArg some (items i rfl (free.of_items rfl))
    -- the list of the node has not grown, so it stays as it was declared
    have list : f.withRequired f.requiredSet = f := if_neg (Nat.lt_irrefl _)
    rw [merged_node, own, asks, each, item]
    exact congrArg (node · ps i) list

/-- Nor does it ask for anything around it. -/
theorem merge_of_unbound {s : Schema} (free : s.Unbound) (enclosing : NameSet) :
    s.merge enclosing = (s, enclosing) := by
  apply Prod.ext
  · rw [merge_fst, merged_of_unbound free]
  · rw [merge_snd, free.asked_eq_none]
    rfl

/-! ## What a merge leaves -/

theorem key_merged (s : Schema) : s.merged.facets.key = s.facets.key := by
  rw [facets_merged, Facets.key_withRequired, Facets.key_merged]

theorem binding_merged (s : Schema) : s.merged.facets.binding = none := by
  rw [facets_merged, Facets.binding_withRequired, Facets.binding_merged]

/-- A merged tree has no bindings. -/
theorem unbound_merged (s : Schema) : s.merged.Unbound := by
  intro place m stands
  rw [at?_merged] at stands
  obtain ⟨n, -, rfl⟩ := Option.map_eq_some_iff.mp stands
  exact n.binding_merged

/-- What a node shares with the node that it was before the merge: the kind, the property
key, the properties with their kinds and keys, in order, and whether there is an item
schema. -/
structure SameShape (n m : Schema) : Prop where
  kind : m.kind = n.kind
  key : m.facets.key = n.facets.key
  properties :
    (m.properties.map fun p => (p.kind, p.facets.key)) =
      n.properties.map fun p => (p.kind, p.facets.key)
  items : m.items.isSome = n.items.isSome

theorem sameShape_merged (n : Schema) : n.SameShape n.merged where
  kind := n.kind_merged
  key := n.key_merged
  properties := by
    rw [properties_merged, List.map_map]
    apply List.map_congr_left
    intro p _
    exact Prod.ext p.kind_merged p.key_merged
  items := by rw [items_merged, Option.isSome_map]

/-- Merging brings a tree into normal form. No binding is left anywhere. At every place
stands a node exactly where one stood before, with the same shape, and its name is the
one that its binding gives, else the one that title and property key gave. A tree
without bindings is its own normal form and asks for nothing around it; so merging a
merged tree, with the names that are required around it by then, changes nothing. -/
theorem merge_normalises (s : Schema) (enclosing : NameSet) :
    (s.merge enclosing).1.Unbound ∧
      (∀ place, ((s.merge enclosing).1.at? place).isSome = (s.at? place).isSome) ∧
      (∀ place n m, s.at? place = some n → (s.merge enclosing).1.at? place = some m →
        n.SameShape m ∧
          m.name? = ((n.facets.binding.bind fun b => b.keyName n.kind) <|>
            n.facets.title <|> n.facets.key)) ∧
      (s.Unbound → s.merge enclosing = (s, enclosing)) ∧
      (s.merge enclosing).1.merge (s.merge enclosing).2 = s.merge enclosing := by
  have normal : (s.merge enclosing).1.Unbound := by
    rw [merge_fst]
    exact s.unbound_merged
  refine ⟨normal, fun place => ?_, fun place n m was is => ?_, fun free => ?_, ?_⟩
  · rw [merge_fst, at?_merged, Option.isSome_map]
  · rw [merge_fst, at?_merged, was, Option.map_some] at is
    cases is
    refine ⟨n.sameShape_merged, ?_⟩
    rw [name?_merged, Facets.name?_merged]
    rfl
  · exact merge_of_unbound free enclosing
  · exact merge_of_unbound normal _

/-- A table of rows that are sent under another name. The list of the table says twice
that the rows are required, and its cells have a binding without a name. -/
def boundTable : Schema :=
  node { kind := some .object, key := some "table", required := some ["rows", "rows"] }
    [node { kind := some .array, key := some "rows", binding := some { name := some "row[]" } }
      [node { key := some "note" } [] none]
      (some (node { kind := some .string, key := some "cell", binding := some {} } [] none))]
    none

/-- The rows of the merged table are called as they are sent, its cells by their key, and
the merged table is left as it is, with the list that repeats a name. -/
theorem boundTable_normalised :
    (∃ rows, boundTable.merged.at? [.property 0] = some rows ∧ rows.name? = some "row") ∧
      (∃ cell, boundTable.merged.at? [.property 0, .items] = some cell ∧
        cell.name? = some "cell") ∧
      boundTable.merged.facets.required = some ["rows", "rows"] ∧
      boundTable.merged.Unbound ∧
      boundTable.merged.merge NameSet.empty = (boundTable.merged, NameSet.empty) := by
  obtain ⟨normal, -, names, -, -⟩ := merge_normalises boundTable NameSet.empty
  obtain ⟨-, -, -, stays, -⟩ := merge_normalises boundTable.merged NameSet.empty
  have rows := (names [.property 0] _ _ rfl rfl).2
  have cell := (names [.property 0, .items] _ _ rfl rfl).2
  exact ⟨⟨_, rfl, rows⟩, ⟨_, rfl, cell⟩, rfl, normal, stays normal⟩

end Schema

end PayloadRules
