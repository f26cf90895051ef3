import PayloadRules.Proofs.RequestOutput
import PayloadRules.Proofs.RequiredFields

/-!
# A compiled request agrees with its declarations

A request that compiles has passed its check, so the declared type of every field agrees
with the merged schema of the field. The rules are made from the same merged schema, and
they say what was declared: null is accepted where the declaration accepts it, a declared
array is an array, and a field that the request requires is asked for unless it may be
null.

The rules of a field reach the request as long as no earlier field has filed rules under
its name (`Request.declarations_hold`). A resolver may make of the hints whatever rules it
likes, and these stand beside the declared ones; the rules that a registry makes of them
never accept null.
-/

namespace PayloadRules

/-! ## What the check has seen -/

theorem Consistency.diagnostics_eq_nil_iff {field : String} {declared : DeclaredType}
    {kind : Option Kind} {nullable : Bool} :
    diagnostics field declared kind nullable = [] ↔
      declared.nullable = nullable ∧ typesAgree declared kind = true := by
  simp only [diagnostics, List.append_eq_nil_iff, ite_eq_left_iff, reduceCtorEq, imp_false,
    Decidable.not_not]

/-- A declared array is described as an array or as an object. -/
theorem Consistency.isContainer_of_typesAgree {declared : DeclaredType} {kind : Option Kind}
    (array : declared.isArray = true) (agree : typesAgree declared kind = true) :
    kind = some .array ∨ kind = some .object := by
  cases kind with
  | none =>
    rw [typesAgree, array] at agree
    cases agree
  | some kind =>
    simp only [typesAgree, array, if_true, Kind.isContainer, decide_eq_true_iff] at agree
    exact agree.imp (congrArg some) (congrArg some)

/-! ## The rules of one node -/

theorem Registry.nullable_not_mem_spliced (registry : Registry) (f : Facets) :
    Rule.nullable ∉ f.spliced registry.resolve := by
  intro h
  obtain ⟨id, -, resolved⟩ := List.mem_map.mp h
  rw [resolve] at resolved
  cases found : registry.find? id <;> rw [found] at resolved <;> cases resolved

namespace Facets

variable {f : Facets} {presence : Option Rule}

/-- A node accepts null when it says so or when a hint of it does, and not otherwise. -/
theorem nullable_mem_rules_iff (resolve : Resolver)
    (asks : ∀ r ∈ presence, r.isPresence = true) :
    Rule.nullable ∈ f.rules resolve presence ↔
      f.isNullable = true ∨ .nullable ∈ f.spliced resolve := by
  have asked : Rule.nullable ∉ presence.toList :=
    fun h => Bool.false_ne_true (asks _ (Option.mem_toList.mp h))
  have shape : Rule.nullable ∉ f.shapeRules :=
    fun h => Bool.false_ne_true (f.isOnValue_of_mem_shapeRules h)
  have range : Rule.nullable ∉ f.rangeRules :=
    fun h => Bool.false_ne_true (f.isOnValue_of_mem_rangeRules h)
  have said : Rule.nullable ∈ (if f.isNullable then [Rule.nullable] else []) ↔
      f.isNullable = true := by
    cases f.isNullable <;> simp
  simp only [rules_eq_parts, List.mem_append, asked, said, shape, range, or_false]

/-- An array or an object has the type rule of arrays, unless it is a file. -/
theorem array_mem_rules (resolve : Resolver) (kind : f.kind = some .array ∨ f.kind = some .object)
    (file : ∀ hint, f.extensions.get? "mimes" = some hint → hint = .null) :
    Rule.type .array ∈ f.rules resolve presence := by
  have mimes : (Hints.ofExtensions f.extensions).mimes = none := by
    change (f.extensions.get? "mimes").bind Hints.scalarText = none
    cases hint : f.extensions.get? "mimes" with
    | none => rfl
    | some value =>
      rw [file value hint]
      rfl
  have typed : Rule.type .array ∈ typeRules f.kind (Hints.ofExtensions f.extensions) := by
    rw [typeRules, mimes]
    refine List.mem_append_left _ ?_
    rcases kind with kind | kind <;> rw [kind] <;> exact List.mem_singleton_self _
  rw [rules_eq_parts]
  simp only [shapeRules, List.mem_append, typed, true_or, or_true]

end Facets

/-! ## The names required -/

/-- What is required at first is required at every field. -/
theorem mem_required_of_mem_resolveFields {name : String} {fields : List Field}
    {required : NameSet} {f : ResolvedField} (hf : f ∈ resolveFields required fields)
    (there : name ∈ required) : name ∈ f.required := by
  induction fields generalizing required with
  | nil => cases hf
  | cons g rest ih =>
    cases described : g.schema with
    | none =>
      simp only [resolveFields, Field.resolve?_of_undescribed described] at hf
      exact ih hf there
    | some s =>
      have resolved := Field.resolve?_eq described required
      simp only [resolveFields, resolved] at hf
      have kept : name ∈ (required.insertAll (g.asked s).toList).insertAll
          (g.boundSchema s).asked.toList := by
        rw [NameSet.mem_insertAll, NameSet.mem_insertAll]
        exact Or.inl (Or.inl there)
      rcases List.mem_cons.mp hf with rfl | hf
      · exact kept
      · exact ih hf kept

/-! ## The request -/

namespace Request

variable {r : Request} {resolve : Resolver} {format : Formatter} {out : CompiledRequest}

/-- What the first field with a key files there is what the request has there. -/
theorem get?_of_first (compiled : r.compile resolve format = .ok out) {key : String}
    {before after : List ResolvedField} {f : ResolvedField} {rules : List Rule}
    (split : r.resolved = before ++ f :: after)
    (first : ∀ g ∈ before, g.rulesAt? resolve key = none)
    (filed : f.rulesAt? resolve key = some rules) : out.rules.get? key = some rules := by
  rw [(get?_of_compile compiled key).1, split, List.findSome?_append,
    List.findSome?_eq_none_iff.mpr first, Option.none_or, List.findSome?_cons, filed]

/-- In a request that compiles, the rules under the name of a field agree with what the field
declares, as long as no earlier field has rules there. Null is accepted where it is declared,
and elsewhere only when the resolver makes that of a hint, which a registry never does; a field
declared as an array is an array, unless a hint makes a file of it; and a field that the request
or a fragment of it requires must be there, unless it may be null. -/
theorem declarations_hold (resolve : Resolver) (format : Formatter) (r : Request)
    (out : CompiledRequest) (compiled : r.compile resolve format = .ok out)
    (before after : List ResolvedField) (f : ResolvedField) (name : String)
    (split : r.resolved = before ++ f :: after) (named : f.schema.name? = some name)
    (first : ∀ g ∈ before, g.rulesAt? resolve name = none) :
    ∃ rules, out.rules.get? name = some rules ∧
      (.nullable ∈ rules ↔ f.field.declared.nullable = true ∨
        .nullable ∈ f.schema.facets.spliced resolve) ∧
      (∀ registry : Registry, resolve = registry.resolve →
        (.nullable ∈ rules ↔ f.field.declared.nullable = true)) ∧
      (f.field.declared.isArray = true →
        (∀ hint, f.schema.facets.extensions.get? "mimes" = some hint → hint = .null) →
        .type .array ∈ rules) ∧
      (name ∈ r.requiredSet → f.field.declared.nullable = false →
        .required ∈ rules ∨ .present ∈ rules) := by
  have here : f ∈ r.resolved := split ▸ List.mem_append_right _ List.mem_cons_self
  have sound := exists_compile_iff.mp ⟨out, compiled⟩ f here
  obtain ⟨set, ruled⟩ := ResolvedField.exists_rules_of_sound sound
  obtain ⟨nullable, types⟩ := Consistency.diagnostics_eq_nil_iff.mp sound.2
  have entry := Schema.get?_top_of_rules ruled
  rw [Site.key_top named, Site.snd_ruleEntry rfl] at entry
  have filed := (ResolvedField.rulesAt?_of_rules ruled name).trans entry
  have accepts := Facets.nullable_mem_rules_iff (f := f.schema.facets) resolve
    (Site.isPresence_of_mem_presence (v := .top Path.root f.required f.schema) rfl)
  rw [show f.schema.facets.isNullable = f.field.declared.nullable from nullable.symm] at accepts
  refine ⟨_, get?_of_first compiled split first filed, accepts, ?_, fun array file => ?_,
    fun required declared => ?_⟩
  · rintro registry rfl
    exact accepts.trans (or_iff_left (registry.nullable_not_mem_spliced f.schema.facets))
  · exact Facets.array_mem_rules _ (Consistency.isContainer_of_typesAgree array types) file
  · have there := mem_required_of_mem_resolveFields here required
    obtain ⟨rules, found, asked⟩ :=
      Field.presence_of_required named there (Or.inr (nullable ▸ declared)) ruled
    cases entry.symm.trans found
    exact asked

/-- A survey with tags, which it requires and which have a hint, and a note that may be null. -/
def survey : Request where
  name := "Survey"
  required := some ["tags"]
  fields := [
    { name := "tags"
      declared := ⟨"array", false⟩
      schema := some (.node
        { kind := some .array, extensions := Table.ofFirst [("validation", .str "lenient")] } []
        (some (.node { kind := some .string } [] none))) },
    { name := "note"
      declared := ⟨"string", true⟩
      schema := some (.node { kind := some .string, nullable := some true } [] none) }]

/-- The tags must be there and are an array, and only the note may be null. With a resolver that
takes every hint for leave to be null, the tags may be null too. -/
theorem survey_as_declared :
    (∃ out tags note,
      survey.compile Registry.builtin.resolve (fun key _ => key.name) = .ok out ∧
      out.rules.get? "tags" = some tags ∧ out.rules.get? "note" = some note ∧
      .nullable ∉ tags ∧ .nullable ∈ note ∧ .type .array ∈ tags ∧
      (.required ∈ tags ∨ .present ∈ tags)) ∧
      ∃ out tags, survey.compile (fun _ => .nullable) (fun key _ => key.name) = .ok out ∧
        out.rules.get? "tags" = some tags ∧ .nullable ∈ tags := by
  constructor
  · obtain ⟨out, compiled⟩ : ∃ out,
        survey.compile Registry.builtin.resolve (fun key _ => key.name) = .ok out := ⟨_, rfl⟩
    obtain ⟨tags, tags_filed, -, no_null, array, asked⟩ := declarations_hold _ _ survey out
      compiled [] _ _ "tags" rfl rfl (List.forall_mem_nil _)
    obtain ⟨note, note_filed, -, null, -, -⟩ := declarations_hold _ _ survey out compiled [_] [] _
      "note" rfl rfl (List.forall_mem_singleton.mpr rfl)
    refine ⟨out, tags, note, compiled, tags_filed, note_filed, fun h => ?_,
      (null Registry.builtin rfl).mpr rfl, ?_, ?_⟩
    · exact Bool.false_ne_true ((no_null Registry.builtin rfl).mp h)
    · exact array rfl fun hint h => nomatch h
    · exact asked (by decide) rfl
  · obtain ⟨out, compiled⟩ : ∃ out,
        survey.compile (fun _ => .nullable) (fun key _ => key.name) = .ok out := ⟨_, rfl⟩
    obtain ⟨tags, filed, null, -⟩ := declarations_hold _ _ survey out compiled [] _ _ "tags" rfl rfl
      (List.forall_mem_nil _)
    exact ⟨out, tags, compiled, filed, null.mpr (Or.inr (List.mem_singleton_self _))⟩

end Request

end PayloadRules
