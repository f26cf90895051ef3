import PayloadRules.Proofs.Site.Handed
import PayloadRules.Proofs.Site.Tables

/-!
# Every label names the right array

The label of a field inside array items speaks of a row of an array. Which array this is
must not depend on how deep the field stands: it is the outermost one around it, through
all objects and inner arrays between. The walk has no array at hand when it comes to a
field, only a text that was handed down to it, and this text is that of the outermost
array as long as that array has one (`Site.handedText_of_outermost`).

So in a tree with plain names, whose outermost arrays all have texts, the label of every
site is known from the site, its own text and that of the outermost array above it.
-/

namespace PayloadRules

namespace Site

section Labels

variable {s : Schema} {container : Path} {required : NameSet} {v : Site} {format : Formatter}

/-- Outside arrays a site has its own text for a label. -/
theorem ownLabel_of_outside (hv : v ∈ (top container required s).preorder)
    (named : v.isItem = false) (outside : v.arrays = []) :
    v.ownLabel format false "" = v.node.label := by
  have plain : ¬ v.isNested false = true := by
    rw [isNested_eq_inItems named]
    exact fun items => (inItems_iff hv).mp items outside
  rw [ownLabel, if_neg fun both => plain both.1]

theorem itemsLabel_of_outside (hv : v ∈ (top container required s).preorder)
    (named : v.isItem = false) (outside : v.arrays = []) :
    v.itemsLabel format false "" = format.arrayItems v.node.label := by
  have plain : ¬ v.isNested false = true := by
    rw [isNested_eq_inItems named]
    exact fun items => (inItems_iff hv).mp items outside
  rw [itemsLabel, if_neg plain]

/-- What a label needs to know of the arrays around a site: that there are some, and the
name they go by. -/
theorem nested_of_outermost
    (texts : ∀ a ∈ (top container required s).preorder, a.node.kind = some .array →
      a.arrays = [] → a.node.label ≠ "")
    (hv : v ∈ (top container required s).preorder) (named : v.isItem = false)
    (shallow : v.isBuried = false) {a : Site} (outermost : a.IsOutermostArray v) :
    v.isNested false = true ∧ v.arrayName false "" = a.node.label := by
  obtain ⟨ha, array, outside⟩ := outermost
  have inside : v.arrays ≠ [] :=
    List.ne_nil_of_mem (List.mem_filter.mpr ⟨ha, decide_eq_true array⟩)
  have handed := handedText_of_outermost texts hv shallow a ⟨ha, array, outside⟩
  have some := texts a (mem_preorder_of_mem_ancestors hv ha) array outside
  constructor
  · rw [isNested_eq_inItems named]
    exact (inItems_iff hv).mpr inside
  · rw [arrayName, if_neg (handed ▸ some), handed]

/-- Where the top is an array, all other sites stand inside it. -/
theorem eq_top_or_arrays_ne_nil (array : s.kind = some .array)
    (hv : v ∈ (top container required s).preorder) :
    v = top container required s ∨ v.arrays ≠ [] := by
  refine forall_mem_preorder (P := fun w => w = top container required s ∨ w.arrays ≠ []) ?_
    (Or.inl rfl) v hv
  rintro w above x hx
  rw [arrays_of_mem_children hx]
  rcases above with rfl | inside
  · rw [if_pos (show (top container required s).node.kind = some .array from array)]
    exact Or.inr (List.cons_ne_nil _ _)
  · split
    · exact Or.inr (List.cons_ne_nil _ _)
    · exact Or.inr inside

end Labels

end Site

namespace Schema

open Site

variable {s : Schema} {container : Path} {required : NameSet} {format : Formatter}
  {inside : Bool} {root : String} {table : LabelTable}

/-- An open named site is labelled under its key. -/
theorem get?_own_of_labelsIn (plain : s.PlainNames)
    (labelled : s.labelsIn format container inside root = .ok table) {v : Site}
    (hv : v ∈ (top container required s).preorder) (named : v.isItem = false)
    (shallow : v.isBuried = false) :
    table.get? v.key = some (v.ownLabel format inside root) := by
  refine Table.get?_of_mem_entries (e := (v.key, v.ownLabel format inside root)) ?_
  rw [entries_of_open plain (named_of_labelsIn required labelled) labelled]
  refine List.mem_flatMap.mpr ⟨v, List.mem_filter.mpr ⟨hv, by rw [shallow]; rfl⟩, ?_⟩
  rw [labelEntries_of_named named]
  exact List.mem_cons_self

/-- The items of an open named array are labelled under its wildcard, be they a site or
not. -/
theorem get?_items_of_labelsIn (plain : s.PlainNames)
    (labelled : s.labelsIn format container inside root = .ok table) {v : Site}
    (hv : v ∈ (top container required s).preorder) (named : v.isItem = false)
    (shallow : v.isBuried = false) (array : v.node.kind = some .array) :
    table.get? v.path.wildcard.key = some (v.itemsLabel format inside root) := by
  refine Table.get?_of_mem_entries (e := (v.path.wildcard.key, v.itemsLabel format inside root)) ?_
  have here : v ∈ (top container required s).preorder.filter (!·.isBuried) :=
    List.mem_filter.mpr ⟨hv, by rw [shallow]; rfl⟩
  rw [entries_of_open plain (named_of_labelsIn required labelled) labelled]
  by_cases fields : v.hasItemFields = true
  · refine List.mem_flatMap.mpr ⟨v, here, ?_⟩
    rw [labelEntries_of_named named, if_pos fields]
    exact List.mem_cons_of_mem _ (List.mem_singleton_self _)
  · have sound := ((labelsIn_eq_ok_iff required).mp labelled).1 v here
    rw [labelFault?, if_neg (Bool.not_eq_true _ ▸ named)] at sound
    obtain ⟨items, hi⟩ := Option.ne_none_iff_exists'.mp ((fault?_eq_none_iff.mp sound).2 array)
    have single : items.itemProperties = none :=
      itemProperties_eq_none_iff.mpr fun own =>
        fields (hasItemFields_iff.mpr ⟨array, items, hi, own⟩)
    have child : anyItem v items ∈ v.children := by
      rw [children_of_single array hi single]
      exact List.mem_singleton_self _
    refine List.mem_flatMap.mpr ⟨anyItem v items, List.mem_filter.mpr
      ⟨mem_preorder_of_mem_children hv child, ?_⟩, List.mem_singleton_self _⟩
    rw [isBuried_of_mem_children child, named, shallow]
    rfl

/-- In a tree with plain names, whose outermost arrays have texts, every label names the
right array. Outside arrays a node has its own text, and the items of an array are named
after it. Inside arrays there is one outermost array, and whatever stands between it and
a node, this is the array that the label of the node names, unless the node has fields
of its own and is no array. -/
theorem labels_name_outermost_array (required : NameSet) (plain : s.PlainNames)
    (labelled : s.labels format = .ok table)
    (texts : ∀ a ∈ (top Path.root required s).preorder, a.node.kind = some .array →
      a.arrays = [] → a.node.label ≠ "") :
    ∀ v ∈ (top Path.root required s).preorder, v.isItem = false → v.isBuried = false →
      (v.arrays = [] →
        table.get? v.key = some v.node.label ∧
        (v.node.kind = some .array →
          table.get? v.path.wildcard.key = some (format.arrayItems v.node.label))) ∧
      (v.arrays ≠ [] → ∃ a : Site, a.IsOutermostArray v) ∧
      ∀ a : Site, a.IsOutermostArray v →
        (v.node.kind ≠ some .array → v.node.HasFields →
          table.get? v.key = some v.node.label) ∧
        (v.node.kind ≠ some .array → ¬ v.node.HasFields →
          table.get? v.key = some (format.nestedItem a.node.label v.node.label)) ∧
        (v.node.kind = some .array →
          table.get? v.key = some (format.nestedItem a.node.label v.node.label) ∧
          table.get? v.path.wildcard.key =
            some (format.nestedItems a.node.label v.node.label)) := by
  intro v hv named shallow
  have own := get?_own_of_labelsIn plain labelled hv named shallow
  have items := get?_items_of_labelsIn plain labelled hv named shallow
  refine ⟨fun outside => ⟨?_, fun array => ?_⟩, exists_outermost_array hv, fun a outermost => ?_⟩
  · rw [own, ownLabel_of_outside hv named outside]
  · rw [items array, itemsLabel_of_outside hv named outside]
  · obtain ⟨nested, name⟩ := nested_of_outermost texts hv named shallow outermost
    rw [ownLabel, nested, name] at own
    rw [itemsLabel, nested, name] at items
    refine ⟨fun other fields => ?_, fun other bare => ?_, fun array => ⟨?_, items array⟩⟩
    · rw [own, if_neg fun both => both.2.elim other fun bare => bare fields]
    · rw [own, if_pos ⟨rfl, Or.inr bare⟩]
    · rw [own, if_pos ⟨rfl, Or.inl array⟩]

/-- Orders with an address each, and lines at the address. -/
def orders : Schema :=
  node { kind := some .array, key := some "orders", description := some "Orders" } [] <| some <|
    node {} [node { kind := some .object, key := some "address", description := some "Address" }
      [node { kind := some .array, key := some "lines" } [] <| some <|
        node {} [node { kind := some .string, key := some "code" } [] none] none] none] none

/-- A formatter that lists what it is given. -/
def listing : Formatter := fun key params => " ".intercalate (key.name :: params.map (·.2))

/-- The code of a line names the orders, not the lines and not the address. -/
theorem code_of_orders :
    ∃ table, orders.labels listing = .ok table ∧
      table.get? "orders.*.address" = some "Address" ∧
      table.get? "orders.*.address.lines.*" =
        some "nested_array_items Orders lines :position" ∧
      table.get? "orders.*.address.lines.*.code" =
        some "nested_array_item Orders code :position" := by
  have plain : orders.PlainNames := by decide
  obtain ⟨table, labelled⟩ : ∃ table, orders.labels listing = .ok table := ⟨_, rfl⟩
  have texts : ∀ a ∈ (top Path.root NameSet.empty orders).preorder,
      a.node.kind = some .array → a.arrays = [] → a.node.label ≠ "" := by
    rintro a ha - outside
    rw [(eq_top_or_arrays_ne_nil rfl ha).resolve_right fun inside => inside outside]
    decide
  have right := labels_name_outermost_array NameSet.empty plain labelled texts
  have top_mem := mem_preorder_self (top Path.root NameSet.empty orders)
  have address := mem_preorder_of_mem_children top_mem List.mem_cons_self
  have lines := mem_preorder_of_mem_children address List.mem_cons_self
  have code := mem_preorder_of_mem_children lines List.mem_cons_self
  obtain ⟨-, -, of_address⟩ := right _ address rfl rfl
  obtain ⟨-, -, of_lines⟩ := right _ lines rfl rfl
  obtain ⟨-, -, of_code⟩ := right _ code rfl rfl
  refine ⟨table, labelled, ?_, ?_, ?_⟩
  · exact (of_address _ ⟨List.mem_cons_self, rfl, rfl⟩).1 (by decide) (Or.inl rfl)
  · exact ((of_lines _ ⟨List.mem_cons_of_mem _ List.mem_cons_self, rfl, rfl⟩).2.2 rfl).2
  · exact (of_code _ ⟨List.mem_cons_of_mem _ (List.mem_cons_of_mem _ List.mem_cons_self),
      rfl, rfl⟩).2.1 (by decide) (by decide)

end Schema

end PayloadRules
