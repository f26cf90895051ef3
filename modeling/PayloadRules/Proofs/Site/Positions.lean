import PayloadRules.Position
import PayloadRules.Proofs.FirstFault
import PayloadRules.Proofs.Site.Basic

/-!
# The walk over positions visits the sites

`Schema.positions` finds the positions of a schema by three functions that call
one another and stop at the first error. `Schema.positions_eq_gather` says what
they compute together: the positions of the sites below the schema in preorder,
or the fault of the first site that has one.

The recursion and the sites are compared step by step. `Site.walk` is what the
recursion does at one site, and what it does there depends on the children alone.
-/

namespace PayloadRules

namespace Schema

/-- The recursion below a node: the items of an array, the properties of anything
else. -/
def positionsBelow (s : Schema) (path : Path) : Except CompileError (List Position) :=
  if s.kind = some .array then itemPositions path s.items
  else propertyPositions path (NameSet.ofDeclared s.facets.required) s.properties

theorem positions_of_unnamed {s : Schema} (container : Path) (required : NameSet)
    (h : s.name? = none) :
    s.positions container required = .error (.unresolvableName container) := by
  cases s with
  | node f ps its =>
    rw [positions, show f.name? = none from h]
    rfl

theorem positions_of_named {s : Schema} {name : String} (container : Path) (required : NameSet)
    (h : s.name? = some name) :
    s.positions container required =
      (s.positionsBelow (container.child name)).map
        (⟨container, name, s.facets, some required⟩ :: ·) := by
  cases s with
  | node f ps its =>
    rw [positions, show f.name? = some name from h, nameUnder_some, pure_bind, positionsBelow]
    by_cases array : f.kind = some .array
    · rw [if_pos array, if_pos (show (node f ps its).kind = some .array from array)]
      exact bind_pure_comp (m := Except CompileError) _ _
    · rw [if_neg array, if_neg (show (node f ps its).kind ≠ some .array from array)]
      exact bind_pure_comp (m := Except CompileError) _ _

theorem itemPositions_of_fields {items : Schema} {fields : List Schema} (array : Path)
    (own : items.itemProperties = some fields) :
    itemPositions array (some items) =
      propertyPositions array.wildcard (NameSet.ofDeclared items.facets.required) fields := by
  cases items with
  | node f ps its =>
    obtain ⟨shape, rfl⟩ := itemProperties_eq_some_iff.mp own
    exact if_pos shape

theorem itemPositions_of_single {items : Schema} (array : Path)
    (single : items.itemProperties = none) :
    itemPositions array (some items) =
      (items.positionsBelow array.wildcard).map
        (⟨array, Path.anyIndex, items.facets, none⟩ :: ·) := by
  cases items with
  | node f ps its =>
    cases ((not_hasFields_iff.mp (itemProperties_eq_none_iff.mp single)).2 : ps = [])
    have shape : ¬ (f.kind = some .object ∨ ([] : List Schema) ≠ []) :=
      itemProperties_eq_none_iff.mp single
    rw [itemPositions, if_neg shape, positionsBelow]
    by_cases inner : f.kind = some .array
    · rw [if_pos inner, if_pos (show (node f [] its).kind = some .array from inner)]
      exact bind_pure_comp (m := Except CompileError) _ _
    · rw [if_neg inner, if_neg (show (node f [] its).kind ≠ some .array from inner)]
      exact bind_pure_comp (m := Except CompileError) _ _

theorem propertyPositions_cons (container : Path) (required : NameSet) (s : Schema)
    (rest : List Schema) :
    propertyPositions container required (s :: rest) =
      (s.positions container required).bind fun first =>
        (propertyPositions container required rest).map (first ++ ·) := by
  rw [propertyPositions]
  cases s.positions container required with
  | error e => rfl
  | ok first => exact bind_pure_comp (m := Except CompileError) _ _

end Schema

namespace Site

/-- The position that stands for a site. -/
def position (v : Site) : Position :=
  ⟨v.container, v.segment, v.node.facets, if v.isItem then none else some v.listed⟩

/-- The positions of sites, or the first fault among them. -/
abbrev found (vs : List Site) : Except CompileError (List Position) :=
  gather fault? (fun v => [v.position]) vs

/-- What the recursion finds at a site and below it. -/
def walk (v : Site) : Except CompileError (List Position) :=
  if v.isItem then (v.node.positionsBelow v.path).map (v.position :: ·)
  else v.node.positions v.container v.listed

/-! ## One step of the recursion -/

/-- A site with a name of its own, or a wildcard, gives its position in front of
what stands below it. -/
theorem walk_of_named {v : Site} (h : v.isItem = false → v.node.name? ≠ none) :
    v.walk = (v.node.positionsBelow v.path).map (v.position :: ·) := by
  cases item : v.isItem with
  | true => rw [walk, if_pos item]
  | false =>
    obtain ⟨name, named⟩ := Option.ne_none_iff_exists'.mp (h item)
    have segment : v.segment = name := by
      rw [Site.segment, item, named]
      rfl
    rw [walk, if_neg (Bool.not_eq_true _ ▸ item), Schema.positions_of_named _ _ named, position,
      path_eq_child, segment, item]
    rfl

/-- A fault at a site ends the walk there. -/
theorem walk_of_fault {v : Site} {e : CompileError} (fault : v.fault? = some e) :
    v.walk = .error e := by
  by_cases unnamed : v.isItem = false ∧ v.node.name? = none
  · rw [fault?_of_unnamed unnamed.1 unnamed.2] at fault
    cases fault
    rw [walk, if_neg (Bool.not_eq_true _ ▸ unnamed.1), Schema.positions_of_unnamed _ _ unnamed.2]
  · have named : v.isItem = false → v.node.name? ≠ none := fun item h => unnamed ⟨item, h⟩
    by_cases missing : v.node.kind = some .array ∧ v.node.items = none
    · rw [fault?_of_missing named missing.1 missing.2] at fault
      cases fault
      rw [walk_of_named named, Schema.positionsBelow, if_pos missing.1, missing.2]
      rfl
    · rw [fault?_eq_none_iff.mpr ⟨named, fun array h => missing ⟨array, h⟩⟩] at fault
      cases fault

/-! ## The whole recursion -/

/-- Named sites in one container, from left to right. -/
theorem propertyPositions_eq_found {container : Path} {required : NameSet} (step : Schema → Site)
    (stands : ∀ s, (step s).isItem = false ∧ (step s).node = s ∧
      (step s).container = container ∧ (step s).listed = required) :
    ∀ ps : List Schema, (∀ u ∈ ps.map step, u.walk = found u.preorder) →
      Schema.propertyPositions container required ps = found ((ps.map step).flatMap preorder)
  | [], _ => rfl
  | p :: ps, ih => by
    have first := ih (step p) List.mem_cons_self
    have rest := propertyPositions_eq_found step stands ps fun u hu =>
      ih u (List.mem_cons_of_mem _ hu)
    obtain ⟨named, node, above, listed⟩ := stands p
    rw [walk, if_neg (Bool.not_eq_true _ ▸ named), node, above, listed] at first
    rw [Schema.propertyPositions_cons, first, rest]
    exact (gather_append ..).symm

/-- Below a site without fault stand the children, each with what stands below it. -/
theorem positionsBelow_eq_found {v : Site} (sound : v.fault? = none)
    (ih : ∀ u ∈ v.children, u.walk = found u.preorder) :
    v.node.positionsBelow v.path = found (v.children.flatMap preorder) := by
  by_cases array : v.node.kind = some .array
  · obtain ⟨items, hi⟩ := Option.ne_none_iff_exists'.mp ((fault?_eq_none_iff.mp sound).2 array)
    rw [Schema.positionsBelow, if_pos array, hi]
    cases own : items.itemProperties with
    | some fields =>
      rw [children_of_fields array hi own] at ih ⊢
      rw [Schema.itemPositions_of_fields _ own]
      exact propertyPositions_eq_found (field v items) (fun _ => ⟨rfl, rfl, rfl, rfl⟩) fields ih
    | none =>
      rw [children_of_single array hi own] at ih ⊢
      rw [Schema.itemPositions_of_single _ own, List.flatMap_singleton,
        ← ih _ (List.mem_singleton_self _)]
      rfl
  · rw [Schema.positionsBelow, if_neg array]
    rw [children_of_not_array array] at ih ⊢
    exact propertyPositions_eq_found (property v) (fun _ => ⟨rfl, rfl, rfl, rfl⟩) _ ih

theorem walk_eq_found (v : Site) : v.walk = found v.preorder := by
  induction v using children_induction with
  | step v ih =>
    rw [preorder_eq]
    cases fault : v.fault? with
    | some e => rw [walk_of_fault fault, found, gather_cons_of_fault _ fault]
    | none =>
      rw [walk_of_named (fault?_eq_none_iff.mp fault).1, positionsBelow_eq_found fault ih]
      exact (gather_cons_of_sound _ fault).symm

end Site

/-- The positions of a schema are those of its sites in preorder, unless a site is
at fault; then the first fault is the error. -/
theorem Schema.positions_eq_gather (s : Schema) (container : Path) (required : NameSet) :
    s.positions container required =
      gather Site.fault? (fun v => [v.position]) (Site.top container required s).preorder :=
  Site.walk_eq_found (.top container required s)

end PayloadRules
