import PayloadRules.LabelTable
import PayloadRules.Proofs.FirstFault
import PayloadRules.Proofs.Site.Basic

/-!
# The walk over labels visits the open sites

`Schema.labelEntries` gives the labels of a schema by three functions that hand an
array's text down as they call one another. `Schema.labelEntries_eq_gather` says
what they compute together: they take the sites in preorder, leave out those
below a single item, and give each site its own entries.

Each array has a label for its items beside its own. Here that label belongs to
the wildcard site where the array has one, and to the array itself where its items
have fields of their own and so are no site. What was handed down to a site
(`inItems`, `handedText`) is read off the way to it.
-/

namespace PayloadRules

namespace Site

/-! ## What is handed down -/

section Handed

variable (inside : Bool) (root : String)

/-- Whether a site stands in array items, given whether the top does. -/
def inItems : Site → Bool
  | top _ _ _ => inside
  | property parent _ => parent.inItems
  | field _ _ _ => true
  | anyItem _ _ => true

/-- Whether the label of a site is made with that of an array around it. -/
def isNested (v : Site) : Bool := v.inItems inside && v.container.hasWildcard

/-- The text of an array around a site as it is handed down to it, given that of
the top; empty when there is none. -/
def handedText : Site → String
  | top _ _ _ => root
  | property parent _ =>
    if parent.handedText = "" ∧ parent.inItems inside then parent.node.label else parent.handedText
  | field array _ _ => if array.isNested inside then array.handedText else array.node.label
  | anyItem array _ => if array.isNested inside then array.handedText else array.node.label

/-- The name of the array in a nested label. -/
def arrayName (v : Site) : String :=
  if v.handedText inside root = "" then v.container.beforeWildcard else v.handedText inside root

end Handed

/-! ## The entries of a site -/

section Entries

variable (format : Formatter) (inside : Bool) (root : String)

/-- The label of a named site. -/
def ownLabel (v : Site) : String :=
  if v.isNested inside ∧ (v.node.kind = some .array ∨ ¬ v.node.HasFields) then
    format.nestedItem (v.arrayName inside root) v.node.label
  else v.node.label

/-- The label of the items of an array. -/
def itemsLabel (v : Site) : String :=
  if v.isNested inside then format.nestedItems (v.arrayName inside root) v.node.label
  else format.arrayItems v.node.label

/-- The entries of a site: its label, and that of its items where they are no site. -/
def labelEntries (v : Site) : List (String × String) :=
  match v with
  | anyItem array _ => [(v.key, array.itemsLabel format inside root)]
  | _ => (v.key, v.ownLabel format inside root) ::
      if v.hasItemFields then [(v.path.wildcard.key, v.itemsLabel format inside root)] else []

variable {format inside root}

theorem labelEntries_of_named {v : Site} (h : v.isItem = false) :
    v.labelEntries format inside root = (v.key, v.ownLabel format inside root) ::
      if v.hasItemFields then [(v.path.wildcard.key, v.itemsLabel format inside root)] else [] := by
  cases v with
  | anyItem array s => cases h
  | _ => rfl

end Entries

/-- Whether a site stands below the single item of an array. -/
def isBuried (v : Site) : Bool := v.ancestors.any isItem

/-- What the walk over labels minds at a site: it never looks into single items. -/
def labelFault? (v : Site) : Option CompileError := if v.isItem then none else v.fault?

theorem isBuried_of_mem_children {u v : Site} (h : u ∈ v.children) :
    u.isBuried = (v.isItem || v.isBuried) := by
  obtain ⟨-, p, -, rfl⟩ | ⟨-, items, -, ⟨-, -, p, -, rfl⟩ | ⟨-, rfl⟩⟩ := mem_children h <;> rfl

/-- Nothing below a single item is open. -/
theorem filter_open_of_item {v : Site} (h : v.isItem = true) :
    (v.children.flatMap preorder).filter (!·.isBuried) = [] := by
  refine List.filter_eq_nil_iff.mpr fun w hw => ?_
  obtain ⟨u, hu, hw⟩ := List.mem_flatMap.mp hw
  have buried : w.isBuried = true := by
    refine forall_mem_preorder (P := (·.isBuried = true)) (fun c hc x hx => ?_) ?_ w hw
    · rw [isBuried_of_mem_children hx, hc, Bool.or_true]
    · rw [isBuried_of_mem_children hu, h, Bool.true_or]
  rw [buried]
  decide

end Site

/-! ## One step of the recursion -/

namespace Schema

variable (format : Formatter) (container : Path) (inside : Bool) (root : String)

theorem labelEntries_of_unnamed {s : Schema} (h : s.name? = none) :
    s.labelEntries format container inside root = .error (.unresolvableName container) := by
  cases s with
  | node f ps its =>
    rw [labelEntries, show f.name? = none from h]
    rfl

theorem labelEntries_of_array {s : Schema} {name : String} (h : s.name? = some name)
    (array : s.kind = some .array) :
    s.labelEntries format container inside root =
      (itemLabels format (container.child name)
        (if inside && container.hasWildcard then root else s.label) s.items).map
        (arrayLabels format (container.child name) (inside && container.hasWildcard)
          (if root = "" then container.beforeWildcard else root) s.label ++ ·) := by
  cases s with
  | node f ps its =>
    rw [labelEntries, show f.name? = some name from h, nameUnder_some, pure_bind]
    simp only [show f.kind = some .array from array, if_true]
    exact bind_pure_comp (m := Except CompileError) _ _

theorem labelEntries_of_other {s : Schema} {name : String} (h : s.name? = some name)
    (other : s.kind ≠ some .array) :
    s.labelEntries format container inside root =
      (propertyLabels format (container.child name) inside
        (if root = "" ∧ inside then s.label else root) s.properties).map
        (((container.child name).key,
          if (inside && container.hasWildcard) ∧ ¬ s.HasFields then
            format.nestedItem (if root = "" then container.beforeWildcard else root) s.label
          else s.label) :: ·) := by
  cases s with
  | node f ps its =>
    rw [labelEntries, show f.name? = some name from h, nameUnder_some, pure_bind]
    simp only [show ¬ f.kind = some .array from other, if_false]
    by_cases fields : (node f ps its).HasFields
    · simp only [show f.kind = some .object ∨ ps ≠ [] from fields, fields, if_true, not_true,
        and_false, if_false]
      exact bind_pure_comp (m := Except CompileError) _ _
    · cases ((not_hasFields_iff.mp fields).2 : ps = [])
      rw [if_neg (show ¬ (f.kind = some .object ∨ ([] : List Schema) ≠ []) from fields)]
      simp only [fields, not_false_eq_true, and_true]
      cases inside && container.hasWildcard <;> rfl

theorem propertyLabels_cons (s : Schema) (rest : List Schema) :
    propertyLabels format container inside root (s :: rest) =
      (s.labelEntries format container inside root).bind fun first =>
        (propertyLabels format container inside root rest).map (first ++ ·) := by
  rw [propertyLabels]
  cases s.labelEntries format container inside root with
  | error e => rfl
  | ok first => exact bind_pure_comp (m := Except CompileError) _ _

theorem itemLabels_of_fields {items : Schema} {fields : List Schema} (array : Path)
    (own : items.itemProperties = some fields) :
    itemLabels format array root (some items) =
      propertyLabels format array.wildcard true root fields := by
  cases items with
  | node f ps its =>
    obtain ⟨shape, rfl⟩ := itemProperties_eq_some_iff.mp own
    exact if_pos shape

theorem itemLabels_of_single {items : Schema} (array : Path)
    (single : items.itemProperties = none) :
    itemLabels format array root (some items) = .ok [] := by
  cases items with
  | node f ps its => exact if_neg (itemProperties_eq_none_iff.mp single)

end Schema

namespace Site

section Walk

variable (format : Formatter) (inside : Bool) (root : String)

/-- What the recursion finds at a site and below it. -/
def labelWalk (v : Site) : Except CompileError (List (String × String)) :=
  v.node.labelEntries format v.container (v.inItems inside) (v.handedText inside root)

/-- The entries of the open sites among some, or the first fault among them. -/
def labelled (vs : List Site) : Except CompileError (List (String × String)) :=
  gather labelFault? (labelEntries format inside root) (vs.filter (!·.isBuried))

variable {format inside root}

theorem labelled_append (us vs : List Site) :
    labelled format inside root (us ++ vs) = (labelled format inside root us).bind fun first =>
      (labelled format inside root vs).map (first ++ ·) := by
  rw [labelled, List.filter_append]
  exact gather_append ..

theorem arrayLabels_eq {v : Site} (array : v.node.kind = some .array) :
    Schema.arrayLabels format v.path (v.isNested inside) (v.arrayName inside root) v.node.label =
      [(v.key, v.ownLabel format inside root),
        (v.path.wildcard.key, v.itemsLabel format inside root)] := by
  simp only [Schema.arrayLabels, ownLabel, itemsLabel, array, true_or, and_true, key]
  cases v.isNested inside <;> rfl

theorem labelWalk_of_array {v : Site} (named : v.isItem = false) (hn : v.node.name? ≠ none)
    (array : v.node.kind = some .array) :
    v.labelWalk format inside root =
      (Schema.itemLabels format v.path
        (if v.isNested inside then v.handedText inside root else v.node.label) v.node.items).map
        ([(v.key, v.ownLabel format inside root),
          (v.path.wildcard.key, v.itemsLabel format inside root)] ++ ·) := by
  obtain ⟨name, hname⟩ := Option.ne_none_iff_exists'.mp hn
  rw [labelWalk, Schema.labelEntries_of_array _ _ _ _ hname array, ← path_of_name named hname]
  exact congrArg (Except.map · _) (funext fun _ => congrArg (· ++ _) (arrayLabels_eq array))

theorem labelWalk_of_other {v : Site} (named : v.isItem = false) (hn : v.node.name? ≠ none)
    (other : v.node.kind ≠ some .array) :
    v.labelWalk format inside root =
      (Schema.propertyLabels format v.path (v.inItems inside)
        (if v.handedText inside root = "" ∧ v.inItems inside then v.node.label
          else v.handedText inside root) v.node.properties).map
        ([(v.key, v.ownLabel format inside root)] ++ ·) := by
  obtain ⟨name, hname⟩ := Option.ne_none_iff_exists'.mp hn
  rw [labelWalk, Schema.labelEntries_of_other _ _ _ _ hname other, ← path_of_name named hname,
    ownLabel]
  simp only [other, false_or]
  rfl

/-- Open sites in one container, from left to right. -/
theorem propertyLabels_eq_labelled {container : Path} {items : Bool} {text : String}
    (step : Schema → Site)
    (stands : ∀ s, (step s).node = s ∧ (step s).container = container ∧
      (step s).inItems inside = items ∧ (step s).handedText inside root = text) :
    ∀ ps : List Schema,
      (∀ u ∈ ps.map step, u.labelWalk format inside root = labelled format inside root u.preorder) →
      Schema.propertyLabels format container items text ps =
        labelled format inside root ((ps.map step).flatMap preorder)
  | [], _ => rfl
  | p :: ps, ih => by
    have first := ih (step p) List.mem_cons_self
    have rest := propertyLabels_eq_labelled step stands ps fun u hu =>
      ih u (List.mem_cons_of_mem _ hu)
    obtain ⟨node, above, inItems, handed⟩ := stands p
    rw [labelWalk, node, above, inItems, handed] at first
    rw [Schema.propertyLabels_cons, first, rest]
    exact (labelled_append ..).symm

theorem labelWalk_of_fault {v : Site} {e : CompileError} (named : v.isItem = false)
    (fault : v.fault? = some e) : v.labelWalk format inside root = .error e := by
  by_cases unnamed : v.node.name? = none
  · rw [fault?_of_unnamed named unnamed] at fault
    cases fault
    exact Schema.labelEntries_of_unnamed _ _ _ _ unnamed
  · by_cases missing : v.node.kind = some .array ∧ v.node.items = none
    · rw [fault?_of_missing (fun _ => unnamed) missing.1 missing.2] at fault
      cases fault
      rw [labelWalk_of_array named unnamed missing.1, missing.2]
      rfl
    · rw [fault?_eq_none_iff.mpr ⟨fun _ => unnamed, fun array h => missing ⟨array, h⟩⟩] at fault
      cases fault

/-- A single item has one entry, and nothing below it has any. -/
theorem labelled_anyItem (v : Site) (items : Schema)
    (shallow : (anyItem v items).isBuried = false) :
    labelled format inside root (anyItem v items).preorder =
      .ok [(v.path.wildcard.key, v.itemsLabel format inside root)] := by
  rw [labelled, preorder_eq, List.filter_cons_of_pos (by rw [shallow]; rfl),
    filter_open_of_item rfl]
  rfl

/-- A named site gives its entries in front of what the open sites below it give. This
is one step of the recursion; its cases are those of the children. -/
def Steps (format : Formatter) (inside : Bool) (root : String) (v : Site) : Prop :=
  v.labelWalk format inside root =
    (labelled format inside root (v.children.flatMap preorder)).map
      (v.labelEntries format inside root ++ ·)

/-- An array whose items have fields of their own. -/
theorem steps_of_fields {v : Site} {items : Schema} {fields : List Schema}
    (named : v.isItem = false) (hn : v.node.name? ≠ none) (array : v.node.kind = some .array)
    (hi : v.node.items = some items) (own : items.itemProperties = some fields)
    (ih : ∀ u ∈ v.children,
      u.labelWalk format inside root = labelled format inside root u.preorder) :
    v.Steps format inside root := by
  have fields_own : v.hasItemFields = true :=
    hasItemFields_iff.mpr ⟨array, items, hi, (Schema.itemProperties_eq_some_iff.mp own).1⟩
  unfold Steps
  rw [children_of_fields array hi own] at ih ⊢
  rw [labelWalk_of_array named hn array, hi, Schema.itemLabels_of_fields _ _ _ own,
    labelEntries_of_named named, if_pos fields_own]
  refine congrArg (Except.map _) ?_
  exact propertyLabels_eq_labelled (field v items) (fun _ => ⟨rfl, rfl, rfl, rfl⟩) fields ih

/-- An array with a single item, whose label is the one of the items. -/
theorem steps_of_single {v : Site} {items : Schema}
    (named : v.isItem = false) (hn : v.node.name? ≠ none) (array : v.node.kind = some .array)
    (hi : v.node.items = some items) (single : items.itemProperties = none)
    (shallow : ∀ u ∈ v.children, u.isBuried = false) : v.Steps format inside root := by
  have alone : ¬ v.hasItemFields = true := by
    intro own
    obtain ⟨-, i, hi', fields⟩ := hasItemFields_iff.mp own
    cases hi.symm.trans hi'
    exact Schema.itemProperties_eq_none_iff.mp single fields
  unfold Steps
  rw [children_of_single array hi single] at shallow ⊢
  rw [labelWalk_of_array named hn array, hi, Schema.itemLabels_of_single _ _ _ single,
    labelEntries_of_named named, if_neg alone, List.flatMap_singleton,
    labelled_anyItem v items (shallow _ (List.mem_singleton_self _))]
  rfl

/-- A node that is no array. -/
theorem steps_of_properties {v : Site} (named : v.isItem = false) (hn : v.node.name? ≠ none)
    (other : v.node.kind ≠ some .array)
    (ih : ∀ u ∈ v.children,
      u.labelWalk format inside root = labelled format inside root u.preorder) :
    v.Steps format inside root := by
  have alone : ¬ v.hasItemFields = true := fun own => other (hasItemFields_iff.mp own).1
  unfold Steps
  rw [children_of_not_array other] at ih ⊢
  rw [labelWalk_of_other named hn other, labelEntries_of_named named, if_neg alone]
  refine congrArg (Except.map _) ?_
  exact propertyLabels_eq_labelled (property v) (fun _ => ⟨rfl, rfl, rfl, rfl⟩) _ ih

/-- An open named site with what stands below it. -/
theorem labelWalk_eq_labelled (v : Site) (named : v.isItem = false) (shallow : v.isBuried = false) :
    v.labelWalk format inside root = labelled format inside root v.preorder := by
  induction v using children_induction with
  | step v ih =>
    have above : ∀ u ∈ v.children, u.isBuried = false := by
      intro u hu
      rw [isBuried_of_mem_children hu, named, shallow]
      rfl
    have minds : v.labelFault? = v.fault? := by
      rw [labelFault?, named]
      rfl
    rw [preorder_eq, labelled, List.filter_cons_of_pos (by rw [shallow]; rfl)]
    cases fault : v.fault? with
    | some e => rw [labelWalk_of_fault named fault, gather_cons_of_fault _ (minds.trans fault)]
    | none =>
      obtain ⟨hn, hi⟩ := fault?_eq_none_iff.mp fault
      rw [gather_cons_of_sound _ (minds.trans fault)]
      by_cases array : v.node.kind = some .array
      · obtain ⟨items, hi⟩ := Option.ne_none_iff_exists'.mp (hi array)
        cases own : items.itemProperties with
        | some fields =>
          refine steps_of_fields named (hn named) array hi own fun u hu => ih u hu ?_ (above u hu)
          rw [children_of_fields array hi own] at hu
          obtain ⟨p, -, rfl⟩ := List.mem_map.mp hu
          rfl
        | none => exact steps_of_single named (hn named) array hi own above
      · refine steps_of_properties named (hn named) array fun u hu => ih u hu ?_ (above u hu)
        rw [children_of_not_array array] at hu
        obtain ⟨p, -, rfl⟩ := List.mem_map.mp hu
        rfl

end Walk

end Site

/-- The label entries of a schema are those of its open sites in preorder, unless
one of them is at fault; then the first fault is the error. -/
theorem Schema.labelEntries_eq_gather (format : Formatter) (s : Schema) (container : Path)
    (required : NameSet) (inside : Bool) (root : String) :
    s.labelEntries format container inside root =
      gather Site.labelFault? (Site.labelEntries format inside root)
        ((Site.top container required s).preorder.filter (!·.isBuried)) :=
  Site.labelWalk_eq_labelled (.top container required s) rfl rfl

end PayloadRules
