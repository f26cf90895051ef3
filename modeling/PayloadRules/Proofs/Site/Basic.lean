import PayloadRules.CompileError
import PayloadRules.NameSet
import PayloadRules.Proofs.Path
import PayloadRules.Schema.Basic

/-!
# Sites

A site is a place in a schema tree together with the way that leads to it. A way
starts at a top node, and each step goes

- from a node that is no array to one of its properties,
- from an array whose items have fields of their own to one of these fields,
- from any other array to its single item, the wildcard entry.

`Site.children` says which steps a site allows, in order, and `Site.preorder`
lists a site with everything below it. Nothing here can fail: a node without a
name or an array without an item schema is a site like any other, and whether it
is at fault is asked of each site alone. What a site stands for in a payload (its
path, the names its container requires, the sites above it) is read off the way.
-/

namespace PayloadRules

theorem nameUnder_some (container : Path) (name : String) :
    nameUnder container (some name) = pure name := rfl

/-! ## Subtrees -/

namespace Schema

theorem sizeOf_lt_of_mem_properties {s p : Schema} (h : p ∈ s.properties) :
    sizeOf p < sizeOf s := by
  cases s with
  | node f ps i =>
    have smaller := List.sizeOf_lt_of_mem h
    simp only [Schema.properties, node.sizeOf_spec] at smaller ⊢
    omega

theorem sizeOf_lt_of_items {s i : Schema} (h : s.items = some i) : sizeOf i < sizeOf s := by
  cases s with
  | node f ps its =>
    cases (h : its = some i)
    simp only [node.sizeOf_spec, Option.some.sizeOf_spec]
    omega

/-- What holds of a tree when it holds of its properties and its items holds of every tree. -/
theorem tree_induction {P : Schema → Prop}
    (step : ∀ s, (∀ p ∈ s.properties, P p) → (∀ i, s.items = some i → P i) → P s) (s : Schema) :
    P s :=
  step s (fun p _ => tree_induction step p) (fun i _ => tree_induction step i)
termination_by sizeOf s
decreasing_by
  · exact sizeOf_lt_of_mem_properties ‹_›
  · exact sizeOf_lt_of_items ‹_›

/-- Whether a node has fields of its own: an object, or any node with properties. -/
def HasFields (s : Schema) : Prop := s.kind = some .object ∨ s.properties ≠ []

instance (s : Schema) : Decidable s.HasFields :=
  inferInstanceAs (Decidable (s.kind = some .object ∨ s.properties ≠ []))

theorem not_hasFields_iff {s : Schema} :
    ¬ s.HasFields ↔ s.kind ≠ some .object ∧ s.properties = [] := by
  rw [HasFields, not_or, Decidable.not_not]

theorem itemProperties_eq_some_iff {i : Schema} {ps : List Schema} :
    i.itemProperties = some ps ↔ i.HasFields ∧ i.properties = ps := by
  cases i with
  | node f qs its =>
    exact Option.ite_none_right_eq_some.trans (and_congr_right fun _ => Option.some_inj)

theorem itemProperties_eq_none_iff {i : Schema} : i.itemProperties = none ↔ ¬ i.HasFields := by
  cases i with
  | node f qs its =>
    simp only [itemProperties, ite_eq_right_iff, reduceCtorEq, imp_false]
    exact Iff.rfl

end Schema

/-! ## Ways through a tree -/

/-- A place in a schema tree and the way to it. -/
inductive Site where
  /-- A top node, in a container that lists the required names. -/
  | top (container : Path) (required : NameSet) (node : Schema)
  /-- A property of a node that is no array. -/
  | property (parent : Site) (node : Schema)
  /-- A field of the items of an array, whose item schema has fields of its own. -/
  | field (array : Site) (items node : Schema)
  /-- The single item of an array: any index of it. -/
  | anyItem (array : Site) (node : Schema)

namespace Site

/-- The schema that stands at a site. -/
def node : Site → Schema
  | top _ _ s => s
  | property _ s => s
  | field _ _ s => s
  | anyItem _ s => s

/-- Whether a site is the wildcard entry of an array. All other sites have names. -/
def isItem : Site → Bool
  | anyItem _ _ => true
  | _ => false

/-- The path of a site. -/
def path : Site → Path
  | top container _ s => container.child (s.name?.getD "")
  | property parent s => parent.path.child (s.name?.getD "")
  | field array _ s => array.path.wildcard.child (s.name?.getD "")
  | anyItem array _ => array.path.wildcard

/-- The path that the last segment of a site is appended to. -/
def container : Site → Path
  | top container _ _ => container
  | property parent _ => parent.path
  | field array _ _ => array.path.wildcard
  | anyItem array _ => array.path

/-- The last segment of a site. -/
def segment (v : Site) : String := if v.isItem then Path.anyIndex else v.node.name?.getD ""

/-- The key of a site. -/
def key (v : Site) : String := v.path.key

/-- The names that the container of a site lists as required: those handed in at
the top, the list of the node above a property, the list of the item schema above
a field. -/
def listed : Site → NameSet
  | top _ required _ => required
  | property parent _ => NameSet.ofDeclared parent.node.facets.required
  | field _ items _ => NameSet.ofDeclared items.facets.required
  | anyItem _ _ => NameSet.empty

/-- The sites above a site, the nearest first. -/
def ancestors : Site → List Site
  | top _ _ _ => []
  | property parent _ => parent :: parent.ancestors
  | field array _ _ => array :: array.ancestors
  | anyItem array _ => array :: array.ancestors

/-- The number of wildcard segments on the way to a site, its own included. -/
def wildcards : Site → Nat
  | top _ _ _ => 0
  | property parent _ => parent.wildcards
  | field array _ _ => array.wildcards + 1
  | anyItem array _ => array.wildcards + 1

theorem path_eq_child (v : Site) : v.path = v.container.child v.segment := by
  cases v <;> rfl

/-- No site stands at the root. -/
theorem isRoot_path (v : Site) : v.path.isRoot = false := by
  rw [path_eq_child]
  exact Path.isRoot_child _ _

theorem segment_of_named {v : Site} (h : v.isItem = false) : v.segment = v.node.name?.getD "" := by
  rw [segment, h]
  rfl

theorem path_of_name {v : Site} {name : String} (h : v.isItem = false)
    (named : v.node.name? = some name) : v.path = v.container.child name := by
  rw [path_eq_child, segment_of_named h, named]
  rfl

/-- The key of a top-level field is its name. -/
theorem key_top {required : NameSet} {s : Schema} {name : String} (named : s.name? = some name) :
    (top Path.root required s).key = name := by
  rw [key, path_of_name rfl (show (top Path.root required s).node.name? = some name from named)]
  rfl

/-! ## What stands below a site -/

/-- The sites one step below a site. -/
def children (v : Site) : List Site :=
  if v.node.kind = some .array then
    match v.node.items with
    | none => []
    | some items =>
      match items.itemProperties with
      | some fields => fields.map (field v items)
      | none => [anyItem v items]
  else v.node.properties.map (property v)

theorem children_of_not_array {v : Site} (h : v.node.kind ≠ some .array) :
    v.children = v.node.properties.map (property v) := by
  rw [children, if_neg h]

theorem children_of_no_items {v : Site} (array : v.node.kind = some .array)
    (h : v.node.items = none) : v.children = [] := by
  rw [children, if_pos array, h]

theorem children_of_fields {v : Site} {items : Schema} {fields : List Schema}
    (array : v.node.kind = some .array) (h : v.node.items = some items)
    (own : items.itemProperties = some fields) :
    v.children = fields.map (field v items) := by
  simp only [children, if_pos array, h, own]

theorem children_of_single {v : Site} {items : Schema}
    (array : v.node.kind = some .array) (h : v.node.items = some items)
    (single : items.itemProperties = none) : v.children = [anyItem v items] := by
  simp only [children, if_pos array, h, single]

/-- Whether a site is an array whose items have fields of their own. -/
def hasItemFields (v : Site) : Bool :=
  v.node.kind = some .array ∧ (v.node.items.bind Schema.itemProperties).isSome

theorem hasItemFields_iff {v : Site} :
    v.hasItemFields = true ↔
      v.node.kind = some .array ∧ ∃ items, v.node.items = some items ∧ items.HasFields := by
  rw [hasItemFields, decide_eq_true_iff]
  refine and_congr_right fun _ => ?_
  cases v.node.items with
  | none => simp only [Option.bind_none, Option.isSome_none, Bool.false_eq_true, reduceCtorEq,
      false_and, exists_false]
  | some items =>
    rw [Option.bind_some, Option.isSome_iff_ne_none, ne_eq, Schema.itemProperties_eq_none_iff,
      Decidable.not_not]
    simp only [Option.some.injEq, exists_eq_left']

/-- One step down, read backwards. -/
theorem mem_children {u v : Site} (h : u ∈ v.children) :
    (v.node.kind ≠ some .array ∧ ∃ p ∈ v.node.properties, u = property v p) ∨
    (v.node.kind = some .array ∧ ∃ items, v.node.items = some items ∧
      ((∃ fields, items.itemProperties = some fields ∧ ∃ p ∈ fields, u = field v items p) ∨
        items.itemProperties = none ∧ u = anyItem v items)) := by
  by_cases array : v.node.kind = some .array
  · refine Or.inr ⟨array, ?_⟩
    cases hi : v.node.items with
    | none =>
      rw [children_of_no_items array hi] at h
      cases h
    | some items =>
      refine ⟨items, rfl, ?_⟩
      cases hf : items.itemProperties with
      | some fields =>
        rw [children_of_fields array hi hf] at h
        obtain ⟨p, hp, rfl⟩ := List.mem_map.mp h
        exact Or.inl ⟨fields, rfl, p, hp, rfl⟩
      | none =>
        rw [children_of_single array hi hf] at h
        exact Or.inr ⟨rfl, List.mem_singleton.mp h⟩
  · rw [children_of_not_array array] at h
    obtain ⟨p, hp, rfl⟩ := List.mem_map.mp h
    exact Or.inl ⟨array, p, hp, rfl⟩

/-- A step leads to a smaller tree. -/
theorem sizeOf_lt_of_mem_children {u v : Site} (h : u ∈ v.children) :
    sizeOf u.node < sizeOf v.node := by
  obtain ⟨-, p, hp, rfl⟩ | ⟨-, items, hi, ⟨fields, hf, p, hp, rfl⟩ | ⟨-, rfl⟩⟩ := mem_children h
  · exact Schema.sizeOf_lt_of_mem_properties hp
  · rw [← (Schema.itemProperties_eq_some_iff.mp hf).2] at hp
    exact Nat.lt_trans (Schema.sizeOf_lt_of_mem_properties hp) (Schema.sizeOf_lt_of_items hi)
  · exact Schema.sizeOf_lt_of_items hi

/-- What holds of a site when it holds of every child holds of every site. -/
theorem children_induction {P : Site → Prop} (step : ∀ v, (∀ u ∈ v.children, P u) → P v)
    (v : Site) : P v :=
  step v fun u _ => children_induction step u
termination_by sizeOf v.node
decreasing_by exact sizeOf_lt_of_mem_children ‹_›

/-- A site and all sites below it, each before what stands below it. -/
def preorder (v : Site) : List Site :=
  v :: v.children.attach.flatMap fun u => preorder u.1
termination_by sizeOf v.node
decreasing_by exact sizeOf_lt_of_mem_children u.2

theorem preorder_eq (v : Site) : v.preorder = v :: v.children.flatMap preorder := by
  rw [preorder, List.flatMap_subtype (g := preorder) (by intros; rfl), List.unattach_attach]

theorem mem_preorder_self (v : Site) : v ∈ v.preorder := by
  rw [preorder_eq]
  exact List.mem_cons_self

/-- What stands below a child stands below its parent. -/
theorem mem_preorder_of_mem_child {u v w : Site} (child : u ∈ v.children) (below : w ∈ u.preorder) :
    w ∈ v.preorder := by
  rw [preorder_eq]
  exact List.mem_cons_of_mem _ (List.mem_flatMap.mpr ⟨u, child, below⟩)

/-- What holds of a site and passes from every site to its children holds of
everything below. -/
theorem forall_mem_preorder {P : Site → Prop} (step : ∀ u, P u → ∀ w ∈ u.children, P w) {v : Site}
    (here : P v) : ∀ w ∈ v.preorder, P w := by
  induction v using children_induction with
  | step v ih =>
    intro w hw
    rw [preorder_eq] at hw
    rcases List.mem_cons.mp hw with rfl | hw
    · exact here
    · obtain ⟨u, hu, hw⟩ := List.mem_flatMap.mp hw
      exact ih u hu (step v here u hu) w hw

/-- The sites below a site contain their children. -/
theorem mem_preorder_of_mem_children {u w v : Site} (hw : w ∈ v.preorder) (hu : u ∈ w.children) :
    u ∈ v.preorder := by
  induction v using children_induction with
  | step v ih =>
    rw [preorder_eq] at hw
    rcases List.mem_cons.mp hw with rfl | hw
    · exact mem_preorder_of_mem_child hu (mem_preorder_self u)
    · obtain ⟨c, hc, hw⟩ := List.mem_flatMap.mp hw
      exact mem_preorder_of_mem_child hc (ih c hc hw)

/-! ## What stands above a site -/

theorem ancestors_of_mem_children {u v : Site} (h : u ∈ v.children) :
    u.ancestors = v :: v.ancestors := by
  obtain ⟨-, p, -, rfl⟩ | ⟨-, items, -, ⟨-, -, p, -, rfl⟩ | ⟨-, rfl⟩⟩ := mem_children h <;> rfl

/-- A site in a tree is the top or a step below another site. -/
theorem eq_or_mem_children_of_mem_preorder {v w : Site} (h : w ∈ v.preorder) :
    w = v ∨ ∃ parent : Site, w ∈ parent.children :=
  forall_mem_preorder (P := fun u => u = v ∨ ∃ parent : Site, u ∈ parent.children)
    (fun parent _ _ hu => Or.inr ⟨parent, hu⟩) (Or.inl rfl) w h

/-- What stands above a site is on the way down to it, or above the site the way starts at. -/
theorem mem_preorder_or_mem_ancestors {u v w : Site} (hw : w ∈ v.preorder)
    (hu : u ∈ w.ancestors) : u ∈ v.preorder ∨ u ∈ v.ancestors := by
  induction v using children_induction with
  | step v ih =>
    rw [preorder_eq] at hw
    rcases List.mem_cons.mp hw with rfl | hw
    · exact Or.inr hu
    · obtain ⟨c, hc, hw⟩ := List.mem_flatMap.mp hw
      rcases ih c hc hw with below | above
      · exact Or.inl (mem_preorder_of_mem_child hc below)
      · rw [ancestors_of_mem_children hc] at above
        rcases List.mem_cons.mp above with rfl | above
        · exact Or.inl (mem_preorder_self _)
        · exact Or.inr above

/-- What stands above a site of a tree is in the tree. -/
theorem mem_preorder_of_mem_ancestors {container : Path} {required : NameSet} {s : Schema}
    {u w : Site} (hw : w ∈ (top container required s).preorder) (hu : u ∈ w.ancestors) :
    u ∈ (top container required s).preorder :=
  (mem_preorder_or_mem_ancestors hw hu).resolve_right List.not_mem_nil

/-! ## Faults -/

/-- What is wrong at a site, seen alone: a named site without a name, else an array
without an item schema. -/
def fault? (v : Site) : Option CompileError :=
  if v.isItem = false ∧ v.node.name? = none then some (.unresolvableName v.container)
  else if v.node.kind = some .array ∧ v.node.items = none then some (.missingItemSchema v.path)
  else none

theorem fault?_of_unnamed {v : Site} (named : v.isItem = false) (h : v.node.name? = none) :
    v.fault? = some (.unresolvableName v.container) := if_pos ⟨named, h⟩

theorem fault?_of_missing {v : Site} (named : v.isItem = false → v.node.name? ≠ none)
    (array : v.node.kind = some .array) (h : v.node.items = none) :
    v.fault? = some (.missingItemSchema v.path) := by
  rw [fault?, if_neg fun both => named both.1 both.2, if_pos ⟨array, h⟩]

theorem fault?_eq_none_iff {v : Site} :
    v.fault? = none ↔ (v.isItem = false → v.node.name? ≠ none) ∧
      (v.node.kind = some .array → v.node.items ≠ none) := by
  constructor
  · intro sound
    refine ⟨fun named h => ?_, fun array h => ?_⟩
    · rw [fault?_of_unnamed named h] at sound
      cases sound
    · by_cases unnamed : v.isItem = false ∧ v.node.name? = none
      · rw [fault?_of_unnamed unnamed.1 unnamed.2] at sound
        cases sound
      · rw [fault?_of_missing (fun i n => unnamed ⟨i, n⟩) array h] at sound
        cases sound
  · rintro ⟨named, items⟩
    rw [fault?, if_neg fun both => named both.1 both.2, if_neg fun both => items both.1 both.2]

end Site

end PayloadRules
