import PayloadRules.Proofs.Site.Labels

/-!
# What is handed down to a site

The walk over labels hands a text down and looks at the path of the container to see
whether a site stands in array items. In the tree of a top-level field both can be read
off the sites above instead.

A site stands in array items when there are arrays above it (`Site.inItems_iff`), and no
property that happens to be called `*` makes a difference (`Site.isNested_eq_inItems`).
Two kinds of sites may lend their text to the array that is named further down: an array
that stands in no other array, and a node in array items that is no array itself
(`Site.LendsText`). The first such text from the top that is not empty is the one that
is handed down. So the outermost array has the first word, whatever stands between it
and the site (`Site.handedText_of_outermost`), and only when its text is empty anything
else is asked (`Site.handedText_eq_empty_iff`).
-/

namespace PayloadRules

namespace Site

/-- The arrays around a site, the nearest first. -/
def arrays (v : Site) : List Site := v.ancestors.filter fun a => a.node.kind = some .array

/-- An array with the site somewhere inside it that stands in no other array. -/
def IsOutermostArray (a v : Site) : Prop :=
  a ∈ v.ancestors ∧ a.node.kind = some .array ∧ a.arrays = []

/-- Whether the text of a site may be handed down: that of an outermost array, and in
array items that of anything but an array. -/
def LendsText (v : Site) : Prop := v.node.kind = some .array ↔ v.arrays = []

instance (v : Site) : Decidable v.LendsText :=
  inferInstanceAs (Decidable (v.node.kind = some .array ↔ v.arrays = []))

/-! ## One step down -/

theorem arrays_of_mem_children {u v : Site} (h : u ∈ v.children) :
    u.arrays = if v.node.kind = some .array then v :: v.arrays else v.arrays := by
  rw [arrays, ancestors_of_mem_children h, List.filter_cons, ← arrays]
  by_cases array : v.node.kind = some .array
  · rw [if_pos (decide_eq_true array), if_pos array]
  · rw [if_neg (by rwa [decide_eq_true_iff]), if_neg array]

theorem arrays_of_other {u v : Site} (h : u ∈ v.children) (other : v.node.kind ≠ some .array) :
    u.arrays = v.arrays := by
  rw [arrays_of_mem_children h, if_neg other]

/-- In array items every path runs through a wildcard. -/
theorem hasWildcard_path (v : Site) (items : v.inItems false = true) :
    v.path.hasWildcard = true := by
  induction v with
  | top container required s => cases items
  | property parent s ih =>
    have above := ih items
    simp only [Path.hasWildcard, List.contains_iff_mem] at above ⊢
    exact List.mem_append_left _ above
  | field array items s ih =>
    rw [Path.hasWildcard, List.contains_iff_mem]
    exact List.mem_append_left _ (List.mem_append_right _ (List.mem_singleton_self _))
  | anyItem array s ih =>
    rw [Path.hasWildcard, List.contains_iff_mem]
    exact List.mem_append_right _ (List.mem_singleton_self _)

/-- A named site is nested when it stands in array items, whatever its path says. -/
theorem isNested_eq_inItems {v : Site} (named : v.isItem = false) :
    v.isNested false = v.inItems false := by
  rw [isNested]
  cases items : v.inItems false with
  | false => rfl
  | true =>
    have wildcard : v.container.hasWildcard = true := by
      cases v with
      | top container required s => cases items
      | property parent s => exact hasWildcard_path parent items
      | field array i s =>
        rw [container, Path.hasWildcard, List.contains_iff_mem]
        exact List.mem_append_right _ (List.mem_singleton_self _)
      | anyItem array s => cases named
    rw [wildcard]
    rfl

/-! ## The sites of a tree -/

section Tree

variable {s : Schema} {container : Path} {required : NameSet} {u v : Site}

theorem inItems_iff (hv : v ∈ (top container required s).preorder) :
    v.inItems false = true ↔ v.arrays ≠ [] := by
  refine forall_mem_preorder (P := fun w => w.inItems false = true ↔ w.arrays ≠ []) ?_ ?_ v hv
  · intro w above x hx
    rw [arrays_of_mem_children hx]
    obtain ⟨other, p, -, rfl⟩ | ⟨array, i, -, ⟨-, -, p, -, rfl⟩ | ⟨-, rfl⟩⟩ := mem_children hx
    · rw [if_neg other]
      exact above
    · rw [if_pos array]
      exact iff_of_true rfl (List.cons_ne_nil _ _)
    · rw [if_pos array]
      exact iff_of_true rfl (List.cons_ne_nil _ _)
  · exact iff_of_false Bool.false_ne_true fun some => some rfl

/-- Outside arrays nothing is handed down. -/
theorem handedText_of_no_arrays (hv : v ∈ (top container required s).preorder)
    (outside : v.arrays = []) : v.handedText false "" = "" := by
  have both : v ∈ (top container required s).preorder ∧
      (v.arrays = [] → v.handedText false "" = "") := by
    refine forall_mem_preorder (P := fun w => w ∈ (top container required s).preorder ∧
      (w.arrays = [] → w.handedText false "" = "")) ?_ ⟨mem_preorder_self _, fun _ => rfl⟩ v hv
    rintro w ⟨hw, above⟩ x hx
    refine ⟨mem_preorder_of_mem_children hw hx, fun alone => ?_⟩
    rw [arrays_of_mem_children hx] at alone
    obtain ⟨other, p, -, rfl⟩ | ⟨array, -⟩ := mem_children hx
    · rw [if_neg other] at alone
      have plain : ¬ w.inItems false = true := fun items => (inItems_iff hw).mp items alone
      rw [handedText, if_neg fun both => plain both.2]
      exact above alone
    · rw [if_pos array] at alone
      cases alone
  exact both.2 outside

/-- Below a named site arrives what was handed down to it, or its own text if it may lend
it and there was none. -/
theorem handedText_of_mem_children (hv : v ∈ (top container required s).preorder)
    (named : v.isItem = false) (h : u ∈ v.children) :
    u.handedText false "" =
      if v.handedText false "" = "" ∧ v.LendsText then v.node.label
      else v.handedText false "" := by
  obtain ⟨other, p, -, rfl⟩ | ⟨array, below⟩ := mem_children h
  · have lends : v.LendsText ↔ v.inItems false = true := by
      rw [LendsText, inItems_iff hv, iff_false_left other]
    rw [handedText]
    simp only [lends]
  · have handed : u.handedText false "" =
        if v.isNested false then v.handedText false "" else v.node.label := by
      obtain ⟨i, -, ⟨-, -, p, -, rfl⟩ | ⟨-, rfl⟩⟩ := below <;> rfl
    rw [handed, isNested_eq_inItems named]
    by_cases outside : v.arrays = []
    · have plain : ¬ v.inItems false = true := fun items => (inItems_iff hv).mp items outside
      rw [if_neg plain, if_pos ⟨handedText_of_no_arrays hv outside, iff_of_true array outside⟩]
    · have lends : ¬ v.LendsText := fun lends => outside (lends.mp array)
      rw [if_pos ((inItems_iff hv).mpr outside), if_neg fun both => lends both.2]

/-- What holds at the top and passes from every open named site to its children holds at
every open site. -/
theorem forall_open {P : Site → Prop} (here : P (top container required s))
    (step : ∀ w ∈ (top container required s).preorder, w.isItem = false → P w →
      ∀ x ∈ w.children, P x) (hv : v ∈ (top container required s).preorder)
    (shallow : v.isBuried = false) : P v := by
  have both : v ∈ (top container required s).preorder ∧ (v.isBuried = false → P v) := by
    refine forall_mem_preorder (P := fun w => w ∈ (top container required s).preorder ∧
      (w.isBuried = false → P w)) ?_ ⟨mem_preorder_self _, fun _ => here⟩ v hv
    rintro w ⟨hw, above⟩ x hx
    refine ⟨mem_preorder_of_mem_children hw hx, fun shallow => ?_⟩
    rw [isBuried_of_mem_children hx, Bool.or_eq_false_iff] at shallow
    exact step w hw shallow.1 (above shallow.2) x hx
  exact both.2 shallow

/-- Nothing is handed down to an open site exactly when no site above it that may lend
its text has any. -/
theorem handedText_eq_empty_iff (hv : v ∈ (top container required s).preorder)
    (shallow : v.isBuried = false) :
    v.handedText false "" = "" ↔ ∀ a ∈ v.ancestors, a.LendsText → a.node.label = "" := by
  refine forall_open (P := fun w => w.handedText false "" = "" ↔
    ∀ a ∈ w.ancestors, a.LendsText → a.node.label = "") ?_ ?_ hv shallow
  · exact iff_of_true rfl fun _ h => (nomatch h)
  · intro w hw named above x hx
    rw [handedText_of_mem_children hw named hx, ancestors_of_mem_children hx, List.forall_mem_cons,
      ← above]
    by_cases silent : w.handedText false "" = ""
    · by_cases lends : w.LendsText
      · simp only [silent, lends, and_true, if_true, true_implies]
      · simp only [silent, lends, and_false, if_false, false_implies, true_and]
    · simp only [silent, false_and, and_false, if_false]

/-- An outermost array that has a text hands it down to all open sites inside it. -/
theorem handedText_of_outermost
    (texts : ∀ a ∈ (top container required s).preorder, a.node.kind = some .array →
      a.arrays = [] → a.node.label ≠ "")
    (hv : v ∈ (top container required s).preorder) (shallow : v.isBuried = false) :
    ∀ a : Site, a.IsOutermostArray v → v.handedText false "" = a.node.label := by
  refine forall_open (P := fun w => ∀ a : Site, a.IsOutermostArray w →
    w.handedText false "" = a.node.label) (fun a outermost => (nomatch outermost.1)) ?_ hv shallow
  rintro w hw named above x hx a ⟨ha, array, outside⟩
  rw [handedText_of_mem_children hw named hx]
  rw [ancestors_of_mem_children hx] at ha
  rcases List.mem_cons.mp ha with rfl | ha
  · rw [if_pos ⟨handedText_of_no_arrays hw outside, iff_of_true array outside⟩]
  · have handed := above a ⟨ha, array, outside⟩
    have some := texts a (mem_preorder_of_mem_ancestors hw ha) array outside
    rw [if_neg fun both => some (handed ▸ both.1), handed]

/-- In array items there is an outermost array. -/
theorem exists_outermost_array (hv : v ∈ (top container required s).preorder) :
    v.arrays ≠ [] → ∃ a : Site, a.IsOutermostArray v := by
  refine forall_mem_preorder (P := fun w => w.arrays ≠ [] → ∃ a : Site, a.IsOutermostArray w)
    ?_ (fun inside => (inside rfl).elim) v hv
  intro w above x hx inside
  have ancestors := ancestors_of_mem_children hx
  by_cases outside : w.arrays = []
  · by_cases array : w.node.kind = some .array
    · exact ⟨w, ancestors ▸ List.mem_cons_self, array, outside⟩
    · rw [arrays_of_other hx array] at inside
      exact (inside outside).elim
  · obtain ⟨a, ha, rest⟩ := above outside
    exact ⟨a, ancestors ▸ List.mem_cons_of_mem _ ha, rest⟩

end Tree

end Site

end PayloadRules
