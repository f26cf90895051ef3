import PayloadRules.Proofs.FieldIndependence

/-!
# What a check reports

A check resolves the schema of each field, with the names that the fields before it have
left required, and compares it with the declaration. Of all this little is needed. Merging
never changes the kind of a schema, and null is decided by the first that speaks of it: the
schema, then the binding of the field, then the binding attached to the schema
(`Field.nullable_merged`).

So what is reported of a field can be told from its `Evidence`, which is the field's name,
its declared type, the kind of its schema and these three words on null. A check is the
list of the mismatches of the evidence, field by field, and whatever else a request says
does not reach it (`Request.check_reports_mismatches`).
-/

namespace PayloadRules

/-! ## Evidence -/

/-- What a check needs to know of a field with a schema. -/
structure Evidence where
  field : String
  declared : DeclaredType
  kind : Option Kind
  /-- What is said of null, the first word first. -/
  onNull : List (Option Bool)
deriving DecidableEq

namespace Evidence

variable (e : Evidence)

/-- Whether the first word on null accepts it. -/
def acceptsNull : Bool := e.onNull.findSome? id = some true

/-- Whether the declared type contradicts the kind. An array may be described as an array
or an object; any other declaration contradicts a kind whose name does not start with the
declared name. -/
def ContradictsKind : Prop :=
  if e.declared.typeName = "array" then e.kind ≠ some .array ∧ e.kind ≠ some .object
  else ∃ kind ∈ e.kind, ¬ e.declared.typeName.toList <+: kind.name.toList

theorem contradictsKind_iff :
    e.ContradictsKind ↔ Consistency.typesAgree e.declared e.kind = false := by
  have array : e.declared.isArray = decide (e.declared.typeName = "array") := rfl
  unfold ContradictsKind Consistency.typesAgree
  rw [array]
  by_cases declared : e.declared.typeName = "array"
  · cases e.kind <;> simp [declared, Kind.isContainer]
  · cases e.kind <;> simp [declared, ← List.isPrefixOf_iff_prefix]

instance : Decidable e.ContradictsKind := decidable_of_iff _ e.contradictsKind_iff.symm

/-- The mismatches of a field, under the name of its request. -/
def mismatches (request : String) : List Diagnostic :=
  (if e.declared.nullable ≠ e.acceptsNull then
    [{ Consistency.nullabilityMismatch e.field e.declared.nullable e.acceptsNull with
        request := some request }]
  else [])
  ++ if e.ContradictsKind then
    [{ Consistency.typeMismatch e.field e.declared e.kind with request := some request }]
  else []

/-- What the checker finds, once it is told whether null is accepted. -/
theorem mismatches_eq_map_diagnostics (request : String) :
    e.mismatches request =
      (Consistency.diagnostics e.field e.declared e.kind e.acceptsNull).map fun d =>
        { d with request := some request } := by
  unfold mismatches Consistency.diagnostics
  rw [List.map_append]
  congr 1
  · by_cases same : e.declared.nullable = e.acceptsNull <;> simp [same]
  · cases agree : Consistency.typesAgree e.declared e.kind <;>
      simp [contradictsKind_iff, agree]

end Evidence

/-! ## Evidence of fields -/

theorem Facets.nullable_merged (f : Facets) :
    f.merged.nullable = (f.nullable <|> f.binding.bind fun b => b.nullable) := by
  cases bound : f.binding with
  | none =>
    rw [merged_of_unbound bound]
    cases f.nullable <;> rfl
  | some b =>
    rw [merged_of_bound bound]
    rfl

theorem Facets.nullable_withRequired (f : Facets) (required : NameSet) :
    (f.withRequired required).nullable = f.nullable := by
  rw [withRequired]
  split <;> rfl

namespace Field

/-- The evidence of a field that is described by a schema. -/
def evidence (f : Field) (s : Schema) : Evidence where
  field := f.name
  declared := f.declared
  kind := s.kind
  onNull := [s.facets.nullable, f.binding.bind fun b => b.nullable,
    s.facets.binding.bind fun b => b.nullable]

/-- The evidence of a field, if it has a schema. -/
def evidence? (f : Field) : Option Evidence := f.schema.map f.evidence

variable (f : Field) (s : Schema)

theorem nullable_boundSchema :
    (f.boundSchema s).facets.nullable =
      (s.facets.nullable <|> f.binding.bind fun b => b.nullable) := by
  obtain ⟨facets, ps, i⟩ := s
  rw [boundSchema]
  cases f.binding with
  | none =>
    change facets.nullable = (facets.nullable <|> none)
    cases facets.nullable <;> rfl
  | some b => rfl

theorem kind_boundSchema : (f.boundSchema s).kind = s.kind := by
  obtain ⟨facets, ps, i⟩ := s
  rw [boundSchema]
  cases f.binding <;> rfl

/-- The first word on null holds: that of the schema, of the field's binding, of the
attached binding. -/
theorem nullable_merged :
    (f.boundSchema s).merged.facets.nullable = (f.evidence s).onNull.findSome? id := by
  rw [Schema.facets_merged, Facets.nullable_withRequired, Facets.nullable_merged,
    nullable_boundSchema, binding_boundSchema]
  simp only [evidence, List.findSome?_cons]
  cases s.facets.nullable with
  | some word => rfl
  | none =>
    cases f.binding.bind fun b => b.nullable with
    | some word => rfl
    | none => cases s.facets.binding.bind fun b => b.nullable <;> rfl

theorem isNullable_merged :
    (f.boundSchema s).merged.isNullable = (f.evidence s).acceptsNull := by
  rw [Schema.isNullable, Facets.isNullable, nullable_merged, Evidence.acceptsNull]

/-- What is reported of a resolved field are the mismatches of its evidence. -/
theorem taggedDiagnostics_merged (request : String) :
    f.taggedDiagnostics request (f.boundSchema s).merged =
      (f.evidence s).mismatches request := by
  rw [Evidence.mismatches_eq_map_diagnostics, taggedDiagnostics, diagnostics,
    Schema.kind_merged, kind_boundSchema, isNullable_merged]
  rfl

end Field

/-! ## The request -/

namespace Request

/-- What a check needs to know of a request, field by field. -/
def evidence (r : Request) : List Evidence := r.fields.filterMap Field.evidence?

theorem check_eq_flatMap_mismatches (r : Request) :
    r.check = r.evidence.flatMap fun e => e.mismatches r.name := by
  have reported (f : Field) :
      f.mergedSchema?.map (f.taggedDiagnostics r.name) =
        f.evidence?.map fun e => e.mismatches r.name := by
    rw [Field.mergedSchema?, Field.evidence?, Option.map_map, Option.map_map]
    cases f.schema with
    | none => rfl
    | some s => exact congrArg some (f.taggedDiagnostics_merged s r.name)
  calc r.check
      = (r.resolved.map fun f => f.field.taggedDiagnostics r.name f.schema).flatten := by
        rw [check_eq_flatMap, List.flatMap_def]
    _ = (r.fields.filterMap fun f => f.mergedSchema?.map (f.taggedDiagnostics r.name)).flatten :=
        congrArg _ (map_resolveFields (fun f => f.taggedDiagnostics r.name) _ _)
    _ = (r.evidence.map fun e => e.mismatches r.name).flatten := by
        rw [evidence, List.map_filterMap]
        simp only [reported]
    _ = r.evidence.flatMap fun e => e.mismatches r.name := List.flatMap_def.symm

/-- Alone in its request, a field has the mismatches of its evidence. -/
theorem check_alone (r : Request) (f : Field) :
    (r.alone f).check = f.evidence?.toList.flatMap fun e => e.mismatches r.name := by
  rw [check_eq_flatMap_mismatches, evidence, List.filterMap_eq_flatMap_toList]
  exact congrArg (List.flatMap _) (List.flatMap_singleton _ f)

/-- A check reports the mismatches of every field and nothing else. It takes the fields in
order, each as if it were alone in the request. A field without a schema has no mismatch. Any
other field has one in nullability when it is declared to accept null and the first word on
null does not say so, or the other way round, and then one in type when its declared type
contradicts the kind of its schema; both bear the names of the field and of the request.
A field with the same evidence in a request of the same name has the same mismatches,
whatever else the two fields and their requests say. -/
theorem check_reports_mismatches (r : Request) :
    (r.check = r.fields.flatMap fun f => (r.alone f).check) ∧
      (∀ f : Field,
        (r.alone f).check = f.evidence?.toList.flatMap fun e => e.mismatches r.name) ∧
      ∀ (other : Request) (f g : Field), other.name = r.name → g.evidence? = f.evidence? →
        (other.alone g).check = (r.alone f).check := by
  refine ⟨?_, r.check_alone, fun other f g names same => ?_⟩
  · rw [check_eq_flatMap_mismatches, evidence, List.filterMap_eq_flatMap_toList,
      List.flatMap_assoc]
    simp only [check_alone]
  · rw [check_alone, check_alone, names, same]

/-- An age that may be left empty, described as a text. The attached binding accepts null,
but the field's own binding comes first and does not. -/
def age : Field where
  name := "age"
  declared := ⟨"int", true⟩
  schema := some (.node { kind := some .string, binding := some { nullable := some true } } [] none)
  binding := some { nullable := some false }

/-- The same age under another name on the outside, with a description, bounds and parts. -/
def describedAge : Field where
  name := "age"
  declared := ⟨"int", true⟩
  schema := some (.node
    { kind := some .string, title := some "years", description := some "Age in years",
      required := some ["unit"], constraints := { maxLength := some 3 },
      binding := some { name := some "y", nullable := some true } }
    [.property "unit"] none)
  binding := some { required := some true, nullable := some false }

/-- Both ages are reported twice, in requests that have nothing but their name in common. -/
theorem check_of_ages :
    let profile : Request := { name := "Profile" }
    let other : Request := { profile with required := some ["name"], fields := order.fields }
    (other.alone describedAge).check = (profile.alone age).check ∧
      (profile.alone age).check.map (fun d => (d.code, d.field, d.request)) =
        [(.nullabilityMismatch, "age", some "Profile"),
          (.typeMismatch, "age", some "Profile")] := by
  intro profile other
  obtain ⟨-, share, same⟩ := check_reports_mismatches profile
  refine ⟨same other age describedAge rfl rfl, ?_⟩
  rw [share]
  rfl

end Request

end PayloadRules
