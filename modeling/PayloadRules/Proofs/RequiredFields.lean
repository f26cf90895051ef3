import Mathlib.Data.List.Forall2
import PayloadRules.Proofs.Agreement
import PayloadRules.Proofs.Merge
import PayloadRules.Proofs.Presence

/-!
# What a required binding does to the fields of a request

A field can have two bindings: its own, and one attached to its schema. They are merged
one after the other, and each may rename the field and each may require it. A binding
that requires the field adds the name that the field has at that moment.

The second binding adds the name that the field keeps. The first one adds a name that
the second may still change. Then the name that was added is no name of the field any
more: the field is not required by its own binding, and a later field of that name
would be. This is the only way in which a required binding misses its field
(`Field.marks_iff_name_stays`).

When it does not happen, the field has its presence rule, and the fields behind it have
the rules that they would have without it, those of its own name excepted.
-/

namespace PayloadRules

/-! ## Resolving one field -/

namespace Field

/-- Whether the binding of a field makes the field required. -/
def isBoundRequired (f : Field) : Bool := f.binding.any fun b => b.required = some true

/-- The schema of a field with the field's own binding merged in. The bindings inside
the schema come later. -/
def boundSchema (f : Field) (s : Schema) : Schema :=
  match f.binding with
  | some b => (f.keyedSchema s).modify fun facets => facets.mergeBinding b
  | none => f.keyedSchema s

/-- The name that the field's own binding asks for. -/
def asked (f : Field) (s : Schema) : Option String :=
  if f.isBoundRequired then (f.boundSchema s).name? else none

variable {f : Field} {s : Schema}

theorem resolve?_of_undescribed (undescribed : f.schema = none) (required : NameSet) :
    f.resolve? required = none := by
  rw [resolve?, undescribed, Option.map_none]

theorem resolve?_eq (described : f.schema = some s) (required : NameSet) :
    f.resolve? required =
      some ((f.boundSchema s).merged,
        (required.insertAll (f.asked s).toList).insertAll (f.boundSchema s).asked.toList) := by
  rw [resolve?, described, Option.map_some]
  cases h : f.binding with
  | none =>
    simp only [boundSchema, asked, isBoundRequired, h, Option.any_none, Bool.false_eq_true,
      if_false]
    exact congrArg some (Prod.ext (Schema.merge_fst _ _) (Schema.merge_snd _ _))
  | some b =>
    simp only [boundSchema, asked, isBoundRequired, h, Option.any_some, decide_eq_true_iff,
      Schema.mergeBinding, Facets.joinRequired_eq_insertAll]
    exact congrArg some (Prod.ext (Schema.merge_fst _ _) (Schema.merge_snd _ _))

/-- The schema of a field with every binding merged in, whatever is required. -/
def mergedSchema? (f : Field) : Option Schema :=
  f.schema.map fun s => (f.boundSchema s).merged

/-- The binding attached to the schema waits. -/
theorem binding_boundSchema (f : Field) (s : Schema) :
    (f.boundSchema s).facets.binding = s.facets.binding := by
  cases s with
  | node facets ps i =>
    rw [boundSchema]
    cases f.binding <;> rfl

theorem isBoundRequired_boundSchema (f : Field) (s : Schema) :
    (f.boundSchema s).facets.isBoundRequired = s.facets.isBoundRequired := by
  rw [Facets.isBoundRequired, binding_boundSchema, Facets.isBoundRequired]

/-- The name of the field stands in for a missing key, so there is always a name. -/
theorem exists_name?_boundSchema (f : Field) (s : Schema) :
    ∃ first, (f.boundSchema s).name? = some first := by
  obtain ⟨facets, ps, i⟩ := s
  refine Option.ne_none_iff_exists'.mp fun unnamed => ?_
  have key : (f.boundSchema (.node facets ps i)).facets.key = (facets.key <|> some f.name) := by
    rw [boundSchema]
    cases f.binding <;> rfl
  rw [Schema.name?, Facets.name?, key] at unnamed
  simp at unnamed

/-- The names required once a field is resolved: those before, and those that its two
bindings ask for. -/
theorem mem_after_iff {first name m : String} {required after : NameSet} {t : Schema}
    (described : f.schema = some s) (bound : (f.boundSchema s).name? = some first)
    (named : (f.boundSchema s).merged.name? = some name)
    (resolved : f.resolve? required = some (t, after)) :
    m ∈ after ↔ m ∈ required ∨ (f.isBoundRequired = true ∧ m = first) ∨
      (s.facets.isBoundRequired = true ∧ m = name) := by
  rw [resolve?_eq described] at resolved
  cases resolved
  have own : m ∈ (f.asked s).toList ↔ f.isBoundRequired = true ∧ m = first := by
    rw [Option.mem_toList, asked, Option.ite_none_right_eq_some, bound, Option.some_inj]
    exact and_congr_right fun _ => eq_comm
  have attached : m ∈ (f.boundSchema s).asked.toList ↔
      s.facets.isBoundRequired = true ∧ m = name := by
    rw [Option.mem_toList, Schema.asked_eq_some_iff, named, isBoundRequired_boundSchema,
      Option.some_inj]
    exact and_congr_right fun _ => eq_comm
  rw [NameSet.mem_insertAll, NameSet.mem_insertAll, own, attached, or_assoc]

/-- What required bindings owe a field with this resolved name: the name is required
afterwards, and no other name is added. -/
def Marks (f : Field) (s : Schema) (name : String) (before after : NameSet) : Prop :=
  (f.isBoundRequired = true ∨ s.facets.isBoundRequired = true → name ∈ after) ∧
    ∀ m ∈ after, m ∈ before ∨ m = name

theorem marks_of_name_stays {first name : String} {required after : NameSet} {t : Schema}
    (described : f.schema = some s) (bound : (f.boundSchema s).name? = some first)
    (named : (f.boundSchema s).merged.name? = some name)
    (stays : f.isBoundRequired = true → first = name)
    (resolved : f.resolve? required = some (t, after)) : f.Marks s name required after := by
  have added (m : String) := mem_after_iff (m := m) described bound named resolved
  constructor
  · rintro (own | attached)
    · exact (added name).mpr (Or.inr (Or.inl ⟨own, (stays own).symm⟩))
    · exact (added name).mpr (Or.inr (Or.inr ⟨attached, rfl⟩))
  · intro m there
    rcases (added m).mp there with before | ⟨own, rfl⟩ | ⟨-, rfl⟩
    · exact Or.inl before
    · exact Or.inr (stays own)
    · exact Or.inr rfl

end Field

/-- Looking at fields and their schemas one after the other: what is required does not
matter. -/
theorem map_resolveFields {α : Type} (look : Field → Schema → α) (required : NameSet)
    (fields : List Field) :
    (resolveFields required fields).map (fun f => look f.field f.schema) =
      fields.filterMap fun f => f.mergedSchema?.map (look f) := by
  induction fields generalizing required with
  | nil => rfl
  | cons f rest ih =>
    cases described : f.schema with
    | none =>
      have unmerged : f.mergedSchema?.map (look f) = none := by
        rw [Field.mergedSchema?, described]
        rfl
      simp only [resolveFields, Field.resolve?_of_undescribed described, List.filterMap_cons,
        unmerged, ih]
    | some s =>
      have resolved := Field.resolve?_eq described required
      have merged : f.mergedSchema?.map (look f) = some (look f (f.boundSchema s).merged) := by
        rw [Field.mergedSchema?, described]
        rfl
      simp only [resolveFields, resolved, List.map_cons, List.filterMap_cons, merged, ih]

/-! ## The fields behind it -/

/-- The presence rule asks the required names for the node's own name only. -/
theorem presenceRule_congr {f : Facets} {name : String} {container : Path}
    {required around : NameSet} (agree : name ∈ required ↔ name ∈ around) :
    presenceRule f name container required = presenceRule f name container around := by
  simp only [presenceRule, agree]

/-- So do the rules of a schema. -/
theorem Schema.rules_congr_required {s : Schema} {container : Path} {required around : NameSet}
    (agree : ∀ name, s.name? = some name → (name ∈ required ↔ name ∈ around))
    (resolve : Resolver) :
    s.rules resolve container required = s.rules resolve container around := by
  rw [rules, rules, rulesInto, rulesInto]
  cases named : s.name? with
  | none => rw [positions_of_unnamed _ _ named, positions_of_unnamed _ _ named]
  | some name =>
    have first : Position.entry resolve ⟨container, name, s.facets, some required⟩ =
        Position.entry resolve ⟨container, name, s.facets, some around⟩ := by
      simp only [Position.entry, Position.rules, Position.key, Position.path, Option.bind_some,
        presenceRule_congr (agree name named)]
    rw [positions_of_named _ _ named, positions_of_named _ _ named]
    cases s.positionsBelow (container.child name) with
    | error e => rfl
    | ok below =>
      simp only [Except.map, List.map_cons, first]

/-- A field resolved in two ways: to the same schema, and to the same rules unless it
has this name. -/
structure ResolvedField.Unaffected (name : String) (a b : ResolvedField) : Prop where
  field : a.field = b.field
  schema : a.schema = b.schema
  rules : a.schema.name? ≠ some name → ∀ resolve,
    a.schema.rules resolve Path.root a.required = b.schema.rules resolve Path.root b.required

/-- A name that is required or not before the first field changes the rules of the
fields of that name at most. -/
theorem resolveFields_unaffected {name : String} {required around : NameSet}
    (agree : ∀ m, m ≠ name → (m ∈ required ↔ m ∈ around)) (fields : List Field) :
    List.Forall₂ (ResolvedField.Unaffected name) (resolveFields required fields)
      (resolveFields around fields) := by
  induction fields generalizing required around with
  | nil => exact List.Forall₂.nil
  | cons f rest ih =>
    cases described : f.schema with
    | none =>
      simp only [resolveFields, Field.resolve?_of_undescribed described]
      exact ih agree
    | some s =>
      have resolved := Field.resolve?_eq described required
      have elsewhere := Field.resolve?_eq described around
      have after : ∀ m, m ≠ name →
          (m ∈ (required.insertAll (f.asked s).toList).insertAll
              (f.boundSchema s).asked.toList ↔
            m ∈ (around.insertAll (f.asked s).toList).insertAll
              (f.boundSchema s).asked.toList) := by
        intro m other
        simp only [NameSet.mem_insertAll, agree m other]
      simp only [resolveFields, resolved, elsewhere]
      refine List.Forall₂.cons ⟨rfl, rfl, fun different resolve => ?_⟩ (ih after)
      refine Schema.rules_congr_required (fun own named => after own fun same => ?_) resolve
      exact different (same ▸ named)

/-! ## The field itself -/

namespace Field

variable {f : Field} {s : Schema}

/-- A field whose name is required has a presence rule, unless it may be null and is no
object. -/
theorem presence_of_required {t : Schema} {name : String} {required : NameSet}
    {resolve : Resolver} {set : RuleSet} (named : t.name? = some name) (there : name ∈ required)
    (asks : t.kind = some .object ∨ t.isNullable = false)
    (compiled : t.rules resolve Path.root required = .ok set) :
    ∃ rules, set.get? name = some rules ∧ (.required ∈ rules ∨ .present ∈ rules) := by
  have segment : (Site.top Path.root required t).segment = name := by
    rw [Site.segment_of_named rfl, Site.node, named]
    rfl
  have asked : (Site.top Path.root required t).presence = some .required ∨
      (Site.top Path.root required t).presence = some .present := by
    rw [Site.presence, segment]
    simp only [Site.isItem, Site.listed, Site.node, Site.ancestors, there]
    by_cases object : t.kind = some .object
    · simp [object]
    · by_cases array : t.kind = some .array
      · simp [asks.resolve_left object, array]
      · simp [object, asks.resolve_left object, array]
  refine ⟨_, Site.key_top named ▸ Schema.get?_top_of_rules compiled, ?_⟩
  exact asked.imp (Site.mem_ruleEntry_of_presence rfl resolve)
    (Site.mem_ruleEntry_of_presence rfl resolve)

/-- A required binding marks its own field and nothing else, exactly when the field's
own binding does not require a name that the binding attached to the schema changes
again. A field that is so marked as required has its presence rule, unless it may be
null and is no object, and all fields behind it that have other names have the rules
they would have if the field were not there. -/
theorem marks_iff_name_stays (described : f.schema = some s) :
    ∃ first name, (f.boundSchema s).name? = some first ∧
      (∀ required, ∃ t after, f.resolve? required = some (t, after) ∧ t.name? = some name) ∧
      ((∀ required t after, f.resolve? required = some (t, after) →
          f.Marks s name required after) ↔ (f.isBoundRequired = true → first = name)) ∧
      ((f.isBoundRequired = true → first = name) →
        ∀ required t after, f.resolve? required = some (t, after) →
          (f.isBoundRequired = true ∨ s.facets.isBoundRequired = true →
            t.kind = some .object ∨ t.isNullable = false →
            ∀ resolve set, t.rules resolve Path.root after = .ok set →
              ∃ rules, set.get? name = some rules ∧ (.required ∈ rules ∨ .present ∈ rules)) ∧
          ∀ rest, List.Forall₂ (ResolvedField.Unaffected name) (resolveFields required rest)
            (resolveFields after rest)) := by
  obtain ⟨first, bound⟩ := f.exists_name?_boundSchema s
  obtain ⟨name, named⟩ : ∃ name, (f.boundSchema s).merged.name? = some name := by
    refine Option.ne_none_iff_exists'.mp fun unnamed => ?_
    rw [Schema.name?_merged_eq_none_iff, bound] at unnamed
    cases unnamed
  refine ⟨first, name, bound, fun required => ⟨_, _, resolve?_eq described required, named⟩,
    ⟨fun always own => ?_, fun stays required t after resolved => ?_⟩, ?_⟩
  · -- from no name at all, what the own binding adds can only be the resolved name
    have resolved := resolve?_eq described NameSet.empty
    have there := (mem_after_iff described bound named resolved).mpr (Or.inr (Or.inl ⟨own, rfl⟩))
    exact ((always NameSet.empty _ _ resolved).2 first there).resolve_left List.not_mem_nil
  · exact marks_of_name_stays described bound named stays resolved
  · intro stays required t after resolved
    obtain ⟨marked, only⟩ := marks_of_name_stays described bound named stays resolved
    have tree : t.name? = some name := by
      rw [resolve?_eq described] at resolved
      cases resolved
      exact named
    refine ⟨fun asked asks resolve set compiled =>
      presence_of_required tree (marked asked) asks compiled, fun rest => ?_⟩
    refine resolveFields_unaffected (fun m other => ⟨fun before => ?_, fun there => ?_⟩) rest
    · exact (mem_after_iff described bound named resolved).mpr (Or.inl before)
    · exact (only m there).resolve_right other

/-- The schema of a postal code. Its own binding sends it under another name. -/
def postalCode : Schema :=
  .node { kind := some .string, binding := some { name := some "zip" } } [] none

/-- A postal code that is required under the name it is sent under. -/
def zip : Field where
  name := "code"
  declared := ⟨"string", false⟩
  schema := some postalCode
  binding := some { name := some "zip", required := some true }

/-- A postal code that is required before it is renamed. -/
def postcode : Field :=
  { zip with binding := some { name := some "postcode", required := some true } }

/-- A field that is required under the name it keeps is marked. -/
theorem zip_marked :
    zip.schema = some postalCode ∧
      ∀ required t after, zip.resolve? required = some (t, after) →
        zip.Marks postalCode "zip" required after := by
  have described : zip.schema = some postalCode := rfl
  obtain ⟨first, name, bound, resolves, marks, -⟩ := marks_iff_name_stays described
  obtain ⟨t, after, resolved, named⟩ := resolves NameSet.empty
  cases (show some "zip" = some first from bound)
  cases (resolve?_eq described NameSet.empty).symm.trans resolved
  cases (show some "zip" = some name from named)
  exact ⟨described, marks.mpr fun _ => rfl⟩

/-- A field that is required before it is renamed is not marked, and marks a name that
is not its own. -/
theorem postcode_not_marked :
    (¬ ∀ (f : Field) (s t : Schema) (required after : NameSet) (name : String),
        f.schema = some s → f.resolve? required = some (t, after) → t.name? = some name →
        f.isBoundRequired = true ∨ s.facets.isBoundRequired = true → name ∈ after) ∧
      ¬ ∀ (f : Field) (s t : Schema) (required after : NameSet) (name : String),
        f.schema = some s → f.resolve? required = some (t, after) → t.name? = some name →
        ∀ m ∈ after, m ∈ required ∨ m = name := by
  have described : postcode.schema = some postalCode := rfl
  have resolved := resolve?_eq described NameSet.empty
  constructor
  · intro always
    have there := always postcode postalCode _ _ _ "zip" described resolved rfl (Or.inl rfl)
    exact absurd there (by decide)
  · intro always
    have only := always postcode postalCode _ _ _ "zip" described resolved rfl "postcode"
      (by decide)
    exact absurd only (by decide)

end Field

end PayloadRules
