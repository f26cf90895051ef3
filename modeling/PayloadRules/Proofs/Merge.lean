import PayloadRules.Proofs.Site.Recast
import PayloadRules.Schema.Merge

/-!
# Merging, node by node

`Schema.merge` hands required names on from property to property while it takes the
tree apart. What comes of a node rests on less. `Schema.merged` is the merged tree,
whatever is required around it, and `Schema.asked` is the one name that a node asks
its container to require. With these two the walk is gone:

- the node at any place of a merged tree is the merge of the node at that place
  (`Schema.at?_merged`),
- what a merged node requires is what it required before and then what its own
  properties ask for (`Schema.requiredSet_merged`).

So a merge moves no site of a tree (`Schema.mergeRecast`).
-/

namespace PayloadRules

theorem NameSet.insertAll_append (s : NameSet) (names more : List String) :
    s.insertAll (names ++ more) = (s.insertAll names).insertAll more :=
  List.foldl_append

/-! ## Facets -/

namespace Facets

/-- Whether the binding attached to a node makes the node required. -/
def isBoundRequired (f : Facets) : Bool := f.binding.any fun b => b.required = some true

/-- The name that the binding attached to a node gives it. -/
def boundName (f : Facets) : Option String := f.binding.bind fun b => b.keyName f.kind

/-- The facets with their own binding merged in and detached. -/
def merged (f : Facets) : Facets := (f.mergeAttached NameSet.empty).1

/-- The name that a node asks its container to require: its merged name, if its
binding makes it required. -/
def asked (f : Facets) : Option String := if f.isBoundRequired then f.merged.name? else none

variable {f : Facets}

theorem merged_of_unbound (h : f.binding = none) : f.merged = f := by
  rw [merged, mergeAttached, h]

theorem merged_of_bound {b : Binding} (h : f.binding = some b) :
    f.merged = { f with binding := none }.mergeBinding b := by
  rw [merged, mergeAttached, h]

/-- A merged name is that of the binding, else the title, else the property key. -/
theorem name?_merged (f : Facets) : f.merged.name? = (f.boundName <|> f.title <|> f.key) := by
  cases h : f.binding with
  | none =>
    rw [merged_of_unbound h, name?, boundName, h]
    cases f.title <;> cases f.key <;> rfl
  | some b =>
    rw [merged_of_bound h, name?, mergeBinding, boundName, h, Option.bind_some]
    cases b.keyName f.kind <;> cases f.title <;> cases f.key <;> rfl

/-- Only a binding with a name renames a node. -/
theorem name?_merged_of_name {old : String} (h : f.name? = some old) :
    f.merged.name? = some (f.boundName.getD old) := by
  rw [name?_merged]
  rw [name?, ← boundName] at h
  cases bound : f.boundName with
  | some name => rfl
  | none =>
    rw [bound] at h
    simpa using h

/-- Merging gives no name to a node without one, and takes none away. -/
theorem name?_merged_eq_none_iff : f.merged.name? = none ↔ f.name? = none := by
  rw [name?_merged, name?, ← boundName]
  cases f.boundName <;> cases f.title <;> cases f.key <;> simp

theorem kind_merged (f : Facets) : f.merged.kind = f.kind := by
  cases h : f.binding with
  | none => rw [merged_of_unbound h]
  | some b => rw [merged_of_bound h, mergeBinding]

/-- A binding adds nothing to the required names of its own node. -/
theorem required_merged (f : Facets) : f.merged.required = f.required := by
  cases h : f.binding with
  | none => rw [merged_of_unbound h]
  | some b => rw [merged_of_bound h, mergeBinding]

theorem joinRequired_eq_insertAll (b : Binding) (f : Facets) (enclosing : NameSet) :
    b.joinRequired f enclosing =
      enclosing.insertAll (if b.required = some true then f.name? else none).toList := by
  rw [Binding.joinRequired]
  cases b.required with
  | none => rfl
  | some r => cases r <;> cases f.name? <;> rfl

/-- The attached binding changes the facets and asks for at most one name. -/
theorem mergeAttached_eq (f : Facets) (enclosing : NameSet) :
    f.mergeAttached enclosing = (f.merged, enclosing.insertAll f.asked.toList) := by
  cases h : f.binding with
  | none =>
    rw [mergeAttached, asked, isBoundRequired, merged_of_unbound h, h]
    rfl
  | some b =>
    rw [mergeAttached, asked, isBoundRequired, merged_of_bound h, h]
    simp only [joinRequired_eq_insertAll, Option.any_some, decide_eq_true_iff]

theorem name?_withRequired (f : Facets) (required : NameSet) :
    (f.withRequired required).name? = f.name? := by
  rw [withRequired]
  split <;> rfl

theorem kind_withRequired (f : Facets) (required : NameSet) :
    (f.withRequired required).kind = f.kind := by
  rw [withRequired]
  split <;> rfl

/-- Written back or left as it was declared, the list means the names it has grown to. -/
theorem requiredSet_withRequired (f : Facets) (names : List String) :
    (f.withRequired (f.requiredSet.insertAll names)).requiredSet =
      f.requiredSet.insertAll names := by
  rw [withRequired]
  split
  · exact NameSet.ofList_names _
  · next grown => exact (NameSet.insertAll_eq_of_size_le (Nat.le_of_not_lt grown)).symm

end Facets

/-! ## Trees -/

namespace Schema

/-- The tree with every attached binding merged in. -/
def merged (s : Schema) : Schema := (s.merge NameSet.empty).1

/-- The name that a node asks its container to require. -/
def asked (s : Schema) : Option String := s.facets.asked

theorem merge_node (enclosing : NameSet) (f : Facets) (ps : List Schema) (i : Option Schema) :
    (node f ps i).merge enclosing =
      (node (f.merged.withRequired (mergeAll f.merged.requiredSet ps).2)
        (mergeAll f.merged.requiredSet ps).1 (mergeItems i),
        enclosing.insertAll f.asked.toList) := by
  simp only [merge, Facets.mergeAttached_eq]

/-- The merged tree does not depend on what is required around it. -/
theorem merge_fst (s : Schema) (enclosing : NameSet) : (s.merge enclosing).1 = s.merged := by
  cases s with
  | node f ps i => rw [merged, merge_node, merge_node]

/-- Around a node at most the one name is added that the node asks for, whatever is
asked for further down. -/
theorem merge_snd (s : Schema) (enclosing : NameSet) :
    (s.merge enclosing).2 = enclosing.insertAll s.asked.toList := by
  cases s with
  | node f ps i =>
    rw [merge_node]
    rfl

theorem mergeAll_eq (enclosing : NameSet) (ps : List Schema) :
    mergeAll enclosing ps = (ps.map merged, enclosing.insertAll (ps.filterMap asked)) := by
  induction ps generalizing enclosing with
  | nil => rfl
  | cons p ps ih =>
    have names : (p :: ps).filterMap asked = p.asked.toList ++ ps.filterMap asked := by
      rw [List.filterMap_cons]
      cases p.asked <;> rfl
    simp only [mergeAll, ih, merge_fst, merge_snd, names, NameSet.insertAll_append, List.map_cons]

theorem mergeItems_eq (i : Option Schema) : mergeItems i = i.map merged := by
  cases i with
  | none => rfl
  | some s => rw [mergeItems, merge_fst, Option.map_some]

theorem merged_node (f : Facets) (ps : List Schema) (i : Option Schema) :
    (node f ps i).merged =
      node (f.merged.withRequired (f.requiredSet.insertAll (ps.filterMap asked)))
        (ps.map merged) (i.map merged) := by
  have declared : f.merged.requiredSet = f.requiredSet := by
    rw [Facets.requiredSet, Facets.required_merged, Facets.requiredSet]
  rw [merged, merge_node, mergeAll_eq, mergeItems_eq, declared]

section Parts

variable (s : Schema)

theorem facets_merged :
    s.merged.facets =
      s.facets.merged.withRequired
        (s.facets.requiredSet.insertAll (s.properties.filterMap asked)) := by
  cases s with
  | node f ps i =>
    rw [merged_node]
    rfl

theorem properties_merged : s.merged.properties = s.properties.map merged := by
  cases s with
  | node f ps i =>
    rw [merged_node]
    rfl

theorem items_merged : s.merged.items = s.items.map merged := by
  cases s with
  | node f ps i =>
    rw [merged_node]
    rfl

theorem kind_merged : s.merged.kind = s.kind := by
  rw [kind, facets_merged, Facets.kind_withRequired, Facets.kind_merged, kind]

theorem name?_merged : s.merged.name? = s.facets.merged.name? := by
  rw [name?, facets_merged, Facets.name?_withRequired]

theorem name?_merged_eq_none_iff : s.merged.name? = none ↔ s.name? = none := by
  rw [name?_merged, Facets.name?_merged_eq_none_iff, name?]

/-- A merged node requires what it required, then what its properties ask for. -/
theorem requiredSet_merged :
    s.merged.facets.requiredSet =
      s.facets.requiredSet.insertAll (s.properties.filterMap asked) := by
  have declared : s.facets.merged.requiredSet = s.facets.requiredSet := by
    rw [Facets.requiredSet, Facets.required_merged, Facets.requiredSet]
  rw [facets_merged, ← declared, Facets.requiredSet_withRequired]

end Parts

/-- A node with a name keeps one: that of its binding, or its own. -/
theorem name?_merged_of_name {s : Schema} {old : String} (named : s.name? = some old) :
    s.merged.name? = some (s.facets.boundName.getD old) := by
  rw [name?_merged]
  exact Facets.name?_merged_of_name named

theorem asked_eq_some_iff {s : Schema} {name : String} :
    s.asked = some name ↔ s.facets.isBoundRequired = true ∧ s.merged.name? = some name := by
  rw [asked, Facets.asked, name?_merged, Option.ite_none_right_eq_some]

/-- A name is required in a merged node when it was required before or a property of
that name has a binding that makes it required. -/
theorem mem_requiredSet_merged {s : Schema} {name : String} :
    name ∈ s.merged.facets.requiredSet ↔
      name ∈ s.facets.requiredSet ∨
        ∃ p ∈ s.properties, p.facets.isBoundRequired = true ∧ p.merged.name? = some name := by
  simp only [requiredSet_merged, NameSet.mem_insertAll, List.mem_filterMap, asked_eq_some_iff]

/-- Merging keeps the sites of a tree. -/
def mergeRecast : Recast where
  named := merged
  item := merged
  kind_named := kind_merged
  properties_named s _ := properties_merged s
  items_named s _ := items_merged s
  fields_item i := Recast.itemProperties_of_shape (kind_merged i) (properties_merged i)
  kind_item i _ := kind_merged i
  items_item i _ _ := items_merged i

/-! ## Places -/

/-- One step down a tree, wherever it leads. -/
inductive Turn where
  | property (index : Nat)
  | items
deriving DecidableEq, Repr

/-- The node one step below a node. -/
def below? (s : Schema) : Turn → Option Schema
  | .property index => s.properties[index]?
  | .items => s.items

/-- The node at a place of a tree. -/
def at? (s : Schema) : List Turn → Option Schema
  | [] => some s
  | turn :: rest => (s.below? turn).bind fun next => next.at? rest

theorem below?_merged (s : Schema) (turn : Turn) :
    s.merged.below? turn = (s.below? turn).map merged := by
  cases turn with
  | property index => rw [below?, properties_merged, List.getElem?_map, below?]
  | items => rw [below?, items_merged, below?]

/-- Every place of a merged tree holds the merge of what stood there. -/
theorem at?_merged (s : Schema) (place : List Turn) :
    s.merged.at? place = (s.at? place).map merged := by
  induction place generalizing s with
  | nil => rfl
  | cons turn rest ih =>
    rw [at?, at?, below?_merged]
    cases s.below? turn with
    | none => rfl
    | some next => exact ih next

end Schema

end PayloadRules
