import Mathlib.Data.List.Perm.Basic
import PayloadRules.Proofs.RequestOutput
import PayloadRules.Proofs.RequiredFields

/-!
# Fields of a request do not interfere

The fields of a request are compiled one after the other, into the same two tables and
with required names that grow on the way. Both could make the result depend on the order
of the fields, and the result for one field on the others.

It does not, as long as the fields have different plain names and none of them has two
bindings. A field that is bound once adds no required name but its own
(`Field.marks_of_name_stays`), and the rules of a field ask for its own name only
(`Schema.rules_congr_required`). So a field among others has the rules it has alone
(`resolveFields_alike`). And each key begins with the name of one field
(`ResolvedField.owns_of_rulesAt?`), so no field hides an entry of another one.
-/

namespace PayloadRules

/-- Where one entry answers, the first answer is that of this entry. -/
theorem findSome?_eq_of_only {α β : Type} {f : α → Option β} {l : List α} {a : α} (ha : a ∈ l)
    (only : ∀ b ∈ l, f b ≠ none → b = a) : l.findSome? f = f a := by
  cases found : l.findSome? f with
  | none => exact (List.findSome?_eq_none_iff.mp found a ha).symm
  | some value =>
    obtain ⟨b, hb, answer⟩ := List.exists_of_findSome?_eq_some found
    rw [← only b hb (answer ▸ Option.some_ne_none value), answer]

/-! ## A field in two requests -/

/-- A field that is resolved to the same schema and has the same rules in two requests. -/
structure ResolvedField.Alike (a b : ResolvedField) : Prop where
  field : a.field = b.field
  schema : a.schema = b.schema
  rules : ∀ resolve,
    a.schema.rules resolve Path.root a.required = b.schema.rules resolve Path.root b.required

namespace ResolvedField.Alike

variable {a b : ResolvedField} {resolve : Resolver} {format : Formatter}

theorem sound_iff (alike : a.Alike b) : a.Sound resolve ↔ b.Sound resolve := by
  rw [Sound, Sound, fault?, fault?, alike.rules, alike.field, alike.schema]

theorem rulesAt?_eq (alike : a.Alike b) (key : String) :
    a.rulesAt? resolve key = b.rulesAt? resolve key := by
  rw [rulesAt?, rulesAt?, alike.rules]

theorem labelAt?_eq (alike : a.Alike b) (key : String) :
    a.labelAt? format key = b.labelAt? format key := by
  rw [labelAt?, labelAt?, alike.schema]

variable {l m : List ResolvedField}

theorem forall_sound_iff (alike : List.Forall₂ Alike l m) :
    (∀ f ∈ l, f.Sound resolve) ↔ ∀ f ∈ m, f.Sound resolve := by
  induction alike with
  | nil => exact Iff.rfl
  | cons here _ ih => rw [List.forall_mem_cons, List.forall_mem_cons, here.sound_iff, ih]

theorem findSome?_eq {β : Type} {look : ResolvedField → Option β}
    (same : ∀ a b : ResolvedField, a.Alike b → look a = look b) (alike : List.Forall₂ Alike l m) :
    l.findSome? look = m.findSome? look := by
  induction alike with
  | nil => rfl
  | cons here _ ih => rw [List.findSome?_cons, List.findSome?_cons, same _ _ here, ih]

theorem map_name?_eq (alike : List.Forall₂ Alike l m) :
    l.map (·.schema.name?) = m.map (·.schema.name?) := by
  induction alike with
  | nil => rfl
  | cons here _ ih => rw [List.map_cons, List.map_cons, here.schema, ih]

end ResolvedField.Alike

/-! ## Among others and alone -/

/-- Whether a field does not have both a binding of its own and one that is attached to
its schema. -/
def Field.BoundOnce (f : Field) : Prop :=
  ∀ s, f.schema = some s → f.binding = none ∨ s.facets.binding = none

/-- A resolved field has a name. -/
theorem Field.exists_name?_merged (f : Field) (s : Schema) :
    ∃ name, (f.boundSchema s).merged.name? = some name := by
  obtain ⟨first, bound⟩ := f.exists_name?_boundSchema s
  exact ⟨_, Schema.name?_merged_of_name bound⟩

/-- A field that is bound once keeps the name it had when its own binding was merged. -/
theorem Field.name_stays_of_boundOnce {f : Field} {s : Schema} (once : f.BoundOnce)
    (described : f.schema = some s) (own : f.isBoundRequired = true) :
    (f.boundSchema s).merged.name? = (f.boundSchema s).name? := by
  rcases once s described with free | free
  · rw [isBoundRequired, free] at own
    cases own
  · rw [Schema.name?_merged, Facets.merged_of_unbound ((f.binding_boundSchema s).trans free)]
    rfl

/-- Among fields with other names that are bound once, a field has the rules it has alone. The
names required around it may differ, but not in the names of the fields. -/
theorem resolveFields_alike {required around : NameSet} {fields : List Field}
    (once : ∀ f ∈ fields, f.BoundOnce)
    (distinct : ((resolveFields required fields).map (·.schema.name?)).Nodup)
    (agree : ∀ g ∈ resolveFields required fields, ∀ name, g.schema.name? = some name →
      (name ∈ required ↔ name ∈ around)) :
    List.Forall₂ ResolvedField.Alike (resolveFields required fields)
      (fields.flatMap fun f => resolveFields around [f]) := by
  -- `required` grows from field to field, while `around` is what each field finds alone
  induction fields generalizing required with
  | nil => exact List.Forall₂.nil
  | cons f rest ih =>
    have once_rest : ∀ g ∈ rest, g.BoundOnce := fun g hg => once g (List.mem_cons_of_mem _ hg)
    rw [List.flatMap_cons]
    cases described : f.schema with
    | none =>
      simp only [resolveFields, Field.resolve?_of_undescribed described] at distinct agree ⊢
      exact ih once_rest distinct agree
    | some s =>
      obtain ⟨first, bound⟩ := f.exists_name?_boundSchema s
      obtain ⟨name, named⟩ := f.exists_name?_merged s
      have resolved := Field.resolve?_eq described required
      have elsewhere := Field.resolve?_eq described around
      simp only [resolveFields, resolved] at distinct agree ⊢
      simp only [elsewhere]
      obtain ⟨other, distinct_rest⟩ := List.nodup_cons.mp distinct
      refine List.Forall₂.cons ⟨rfl, rfl, fun resolve => ?_⟩ ?_
      · refine Schema.rules_congr_required (fun own hown => ?_) resolve
        have here := agree _ List.mem_cons_self own hown
        simp only [NameSet.mem_insertAll, here]
      · have stays (own : f.isBoundRequired = true) : first = name := by
          have same := Field.name_stays_of_boundOnce (once f List.mem_cons_self) described own
          rw [named, bound] at same
          exact (Option.some.inj same).symm
        obtain ⟨-, only⟩ := Field.marks_of_name_stays described bound named stays resolved
        -- what the field has added is its own name, and no later field has this name
        refine ih once_rest distinct_rest fun g hg m hm => ?_
        have apart : m ≠ name := by
          rintro rfl
          exact other (List.mem_map.mpr ⟨g, hg, hm.trans named.symm⟩)
        rw [← agree g (List.mem_cons_of_mem _ hg) m hm]
        exact ⟨fun there => (only m there).resolve_right apart,
          fun before => (Field.mem_after_iff described bound named resolved).mpr (Or.inl before)⟩

/-- The schemas of a request are resolved field by field. -/
theorem map_schema_resolveFields (required : NameSet) (fields : List Field) :
    (resolveFields required fields).map (·.schema) = fields.filterMap Field.mergedSchema? := by
  rw [map_resolveFields fun _ s => s]
  simp only [Option.map_id_fun', id]

namespace Request

/-- The request with one field alone. -/
def alone (r : Request) (f : Field) : Request := { r with fields := [f] }

/-- Whether the fields of a request have different plain names and are bound once each. -/
structure Independent (r : Request) : Prop where
  distinct : (r.resolved.map (·.schema.name?)).Nodup
  plain : ∀ f ∈ r.resolved, ∀ name, f.schema.name? = some name → Plain name
  once : ∀ f ∈ r.fields, f.BoundOnce

variable {r : Request} {resolve : Resolver} {format : Formatter}

/-- The resolved fields of a request, each of them resolved alone. -/
def resolvedAlone (r : Request) : List ResolvedField :=
  r.fields.flatMap fun f => resolveFields r.requiredSet [f]

theorem resolved_alone (r : Request) (f : Field) :
    (r.alone f).resolved = resolveFields r.requiredSet [f] := rfl

theorem resolved_alike (independent : r.Independent) :
    List.Forall₂ ResolvedField.Alike r.resolved r.resolvedAlone :=
  resolveFields_alike independent.once independent.distinct fun _ _ _ _ => Iff.rfl

/-- A name is that of one field at most. -/
theorem eq_of_owns (independent : r.Independent) {key : String} {a b : ResolvedField}
    (ha : a ∈ r.resolvedAlone) (hb : b ∈ r.resolvedAlone) (own : a.Owns key) (other : b.Owns key) :
    a = b := by
  have distinct := independent.distinct
  rw [ResolvedField.Alike.map_name?_eq (resolved_alike independent)] at distinct
  exact List.inj_on_of_nodup_map distinct ha hb (own.trans other.symm)

/-- What is resolved alone has a name among the fields of the request. -/
theorem exists_resolved_of_alone (independent : r.Independent) {f : ResolvedField}
    (hf : f ∈ r.resolvedAlone) : ∃ g ∈ r.resolved, g.schema.name? = f.schema.name? := by
  have there : f.schema.name? ∈ r.resolved.map (·.schema.name?) := by
    rw [ResolvedField.Alike.map_name?_eq (resolved_alike independent)]
    exact List.mem_map.mpr ⟨f, hf, rfl⟩
  obtain ⟨g, hg, same⟩ := List.mem_map.mp there
  exact ⟨g, hg, same⟩

/-- Another order of the fields leaves them independent. -/
theorem Independent.perm {fields : List Field} (independent : r.Independent)
    (perm : fields.Perm r.fields) : Request.Independent { r with fields := fields } := by
  have schemas : (Request.resolved { r with fields := fields } |>.map (·.schema)).Perm
      (r.resolved.map (·.schema)) := by
    rw [resolved, resolved, map_schema_resolveFields, map_schema_resolveFields]
    exact perm.filterMap _
  refine ⟨?_, ?_, fun f hf => independent.once f (perm.mem_iff.mp hf)⟩
  · have names := schemas.map Schema.name?
    rw [List.map_map, List.map_map] at names
    exact names.nodup_iff.mpr independent.distinct
  · intro f hf name named
    obtain ⟨g, hg, same⟩ := List.mem_map.mp (schemas.mem_iff.mp (List.mem_map_of_mem hf))
    exact independent.plain g hg name (same ▸ named)

theorem resolvedAlone_perm {fields : List Field} (perm : fields.Perm r.fields) :
    (Request.resolvedAlone { r with fields := fields }).Perm r.resolvedAlone :=
  perm.flatMap_right _

/-! ## What is compiled -/

variable {out : CompiledRequest}

/-- A request of independent fields compiles when each of them does. -/
theorem exists_compile_iff_alone (format : Formatter) (independent : r.Independent) :
    (∃ out, r.compile resolve format = .ok out) ↔ ∀ f ∈ r.resolvedAlone, f.Sound resolve := by
  rw [exists_compile_iff, ResolvedField.Alike.forall_sound_iff (resolved_alike independent)]

/-- Under a key stands what a field has there alone. -/
theorem get?_of_independent (independent : r.Independent)
    (compiled : r.compile resolve format = .ok out) (key : String) :
    out.rules.get? key = r.resolvedAlone.findSome? (ResolvedField.rulesAt? resolve key) ∧
      out.labels.get? key = r.resolvedAlone.findSome? (ResolvedField.labelAt? format key) := by
  obtain ⟨rules, labels⟩ := get?_of_compile compiled key
  have alike := resolved_alike independent
  rw [rules, labels]
  exact ⟨ResolvedField.Alike.findSome?_eq (fun _ _ h => h.rulesAt?_eq key) alike,
    ResolvedField.Alike.findSome?_eq (fun _ _ h => h.labelAt?_eq key) alike⟩

/-- Only a field that owns a key has anything there. -/
theorem owns_of_mem_resolvedAlone (independent : r.Independent) {f : ResolvedField}
    (hf : f ∈ r.resolvedAlone) (resolve : Resolver) (format : Formatter) (key : String) :
    (f.rulesAt? resolve key ≠ none → f.Owns key) ∧
      (f.labelAt? format key ≠ none → f.Owns key) := by
  obtain ⟨g, hg, same⟩ := exists_resolved_of_alone independent hf
  have plain : ∀ name, f.schema.name? = some name → Plain name :=
    fun name named => independent.plain g hg name (same.trans named)
  exact ⟨ResolvedField.owns_of_rulesAt? plain, ResolvedField.owns_of_labelAt? plain⟩

/-- Under a key of a field stands what this field has there alone. -/
theorem get?_of_owns (independent : r.Independent) (compiled : r.compile resolve format = .ok out)
    {f : ResolvedField} (hf : f ∈ r.resolvedAlone) {key : String} (own : f.Owns key) :
    out.rules.get? key = f.rulesAt? resolve key ∧
      out.labels.get? key = f.labelAt? format key := by
  obtain ⟨rules, labels⟩ := get?_of_independent independent compiled key
  have only (g : ResolvedField) (hg : g ∈ r.resolvedAlone) (other : g.Owns key) : g = f :=
    eq_of_owns independent hg hf other own
  have owns (g : ResolvedField) (hg : g ∈ r.resolvedAlone) :=
    owns_of_mem_resolvedAlone independent hg resolve format key
  rw [rules, labels]
  exact ⟨findSome?_eq_of_only hf fun g hg there => only g hg ((owns g hg).1 there),
    findSome?_eq_of_only hf fun g hg there => only g hg ((owns g hg).2 there)⟩

/-- Every key of a request is owned by a field. -/
theorem exists_owner (independent : r.Independent) (compiled : r.compile resolve format = .ok out)
    {key : String} (there : out.rules.get? key ≠ none ∨ out.labels.get? key ≠ none) :
    ∃ f ∈ r.resolvedAlone, f.Owns key := by
  obtain ⟨rules, labels⟩ := get?_of_independent independent compiled key
  rw [rules, labels] at there
  by_contra unowned
  have silent : ∀ f ∈ r.resolvedAlone,
      f.rulesAt? resolve key = none ∧ f.labelAt? format key = none := by
    intro f hf
    obtain ⟨ruled, labelled⟩ := owns_of_mem_resolvedAlone independent hf resolve format key
    exact ⟨by_contra fun h => unowned ⟨f, hf, ruled h⟩,
      by_contra fun h => unowned ⟨f, hf, labelled h⟩⟩
  rcases there with there | there
  · exact there (List.findSome?_eq_none_iff.mpr fun f hf => (silent f hf).1)
  · exact there (List.findSome?_eq_none_iff.mpr fun f hf => (silent f hf).2)

/-- Another order of the fields gives the same rules and the same label under every key. -/
theorem get?_perm {fields : List Field} {other : CompiledRequest} (independent : r.Independent)
    (perm : fields.Perm r.fields) (compiled : r.compile resolve format = .ok out)
    (again : Request.compile resolve format { r with fields := fields } = .ok other)
    (key : String) :
    other.rules.get? key = out.rules.get? key ∧ other.labels.get? key = out.labels.get? key := by
  have same := resolvedAlone_perm perm
  have permuted := independent.perm perm
  by_cases owned : ∃ f ∈ r.resolvedAlone, f.Owns key
  · obtain ⟨f, hf, own⟩ := owned
    obtain ⟨rules, labels⟩ := get?_of_owns independent compiled hf own
    obtain ⟨rules', labels'⟩ := get?_of_owns permuted again (same.mem_iff.mpr hf) own
    exact ⟨rules'.trans rules.symm, labels'.trans labels.symm⟩
  · have none_here : ¬ (out.rules.get? key ≠ none ∨ out.labels.get? key ≠ none) :=
      fun there => owned (exists_owner independent compiled there)
    have none_there : ¬ (other.rules.get? key ≠ none ∨ other.labels.get? key ≠ none) := by
      intro there
      obtain ⟨f, hf, own⟩ := exists_owner permuted again there
      exact owned ⟨f, same.mem_iff.mp hf, own⟩
    simp only [not_or, ne_eq, not_not] at none_here none_there
    exact ⟨none_there.1.trans none_here.1.symm, none_there.2.trans none_here.2.symm⟩

theorem Independent.alone {f : Field} (independent : r.Independent) (hf : f ∈ r.fields) :
    (r.alone f).Independent := by
  refine ⟨?_, fun g hg name named => ?_, fun g hg => ?_⟩
  · rw [resolved_alone, resolveFields]
    cases f.resolve? r.requiredSet with
    | none => exact List.nodup_nil
    | some pair => exact List.nodup_singleton _
  · obtain ⟨h, hh, same⟩ :=
      exists_resolved_of_alone independent (List.mem_flatMap.mpr ⟨f, hf, hg⟩)
    exact independent.plain h hh name (same.trans named)
  · cases List.mem_singleton.mp hg
    exact independent.once f hf

/-- Fields that have different plain names and are bound once each do not interfere. In any
order they compile or not, and to the same rules and the same label under every key. Each
key begins with the name of one of the fields, and all that is found under the keys of a field
is what the field compiles to in a request of its own. -/
theorem fields_do_not_interfere (resolve : Resolver) (format : Formatter) (r : Request)
    (independent : r.Independent) :
    (∀ fields : List Field, fields.Perm r.fields →
      ((∃ out, Request.compile resolve format { r with fields := fields } = .ok out) ↔
        ∃ out, r.compile resolve format = .ok out) ∧
      ∀ out other, r.compile resolve format = .ok out →
        Request.compile resolve format { r with fields := fields } = .ok other → ∀ key,
          other.rules.get? key = out.rules.get? key ∧
            other.labels.get? key = out.labels.get? key) ∧
    ∀ out, r.compile resolve format = .ok out →
      (∀ key, out.rules.get? key ≠ none ∨ out.labels.get? key ≠ none →
        ∃ f ∈ r.resolved, f.Owns key) ∧
      ∀ f ∈ r.fields, ∃ own, (r.alone f).compile resolve format = .ok own ∧
        (∀ key, own.rules.get? key ≠ none ∨ own.labels.get? key ≠ none →
          ∃ g ∈ (r.alone f).resolved, g.Owns key) ∧
        ∀ g ∈ (r.alone f).resolved, ∀ key, g.Owns key →
          out.rules.get? key = own.rules.get? key ∧
            out.labels.get? key = own.labels.get? key := by
  have owner (r : Request) (independent : r.Independent) (out : CompiledRequest)
      (compiled : r.compile resolve format = .ok out) (key : String)
      (there : out.rules.get? key ≠ none ∨ out.labels.get? key ≠ none) :
      ∃ f ∈ r.resolved, f.Owns key := by
    obtain ⟨f, hf, own⟩ := exists_owner independent compiled there
    obtain ⟨g, hg, same⟩ := exists_resolved_of_alone independent hf
    exact ⟨g, hg, same.trans own⟩
  refine ⟨fun fields perm => ⟨?_, fun out other compiled again =>
    get?_perm independent perm compiled again⟩, fun out compiled =>
      ⟨owner r independent out compiled, fun f hf => ?_⟩⟩
  · rw [exists_compile_iff_alone format (independent.perm perm),
      exists_compile_iff_alone format independent]
    exact forall_congr' fun f => imp_congr_left (resolvedAlone_perm perm).mem_iff
  · have single := independent.alone hf
    have part : ∀ g ∈ (r.alone f).resolvedAlone, g ∈ r.resolvedAlone := by
      intro g hg
      obtain ⟨h, hh, hg⟩ := List.mem_flatMap.mp hg
      cases List.mem_singleton.mp hh
      exact List.mem_flatMap.mpr ⟨f, hf, hg⟩
    have sound := (exists_compile_iff_alone format independent).mp ⟨out, compiled⟩
    obtain ⟨own, compiled_alone⟩ :=
      (exists_compile_iff_alone format single).mpr fun g hg => sound g (part g hg)
    refine ⟨own, compiled_alone, owner _ single own compiled_alone, fun g hg key owns => ?_⟩
    have here : g ∈ (r.alone f).resolvedAlone :=
      List.mem_flatMap.mpr ⟨f, List.mem_singleton_self f, hg⟩
    obtain ⟨rules, labels⟩ := get?_of_owns independent compiled (part g here) owns
    obtain ⟨rules', labels'⟩ := get?_of_owns single compiled_alone here owns
    exact ⟨rules.trans rules'.symm, labels.trans labels'.symm⟩

/-- A remark that its binding makes required. A point stands in a name below it. -/
def remark : Field where
  name := "remark"
  declared := ⟨"array", false⟩
  schema := some (.node { kind := some .object } [.property "in.full"] none)
  binding := some { required := some true }

/-- An order with a remark. -/
def orderWithRemark : Request := { order with fields := order.fields ++ [remark] }

/-- The remark may stand in front of the lines or alone. -/
theorem remark_of_orders :
    ∃ out other own,
      orderWithRemark.compile Registry.builtin.resolve (fun key _ => key.name) = .ok out ∧
      Request.compile Registry.builtin.resolve (fun key _ => key.name)
        { orderWithRemark with fields := [remark] ++ order.fields } = .ok other ∧
      (orderWithRemark.alone remark).compile Registry.builtin.resolve (fun key _ => key.name) =
        .ok own ∧
      other.rules.get? "lines.*.code" = out.rules.get? "lines.*.code" ∧
      out.rules.get? "remark" = own.rules.get? "remark" ∧
      own.rules.get? "remark" = some [.present, .type .array] := by
  have names : orderWithRemark.resolved.map (·.schema.name?) = [some "lines", some "remark"] := by
    decide
  have independent : orderWithRemark.Independent := by
    refine ⟨names ▸ by decide, fun f hf name named => ?_, fun f hf => ?_⟩
    · have there : some name ∈ orderWithRemark.resolved.map (·.schema.name?) :=
        List.mem_map.mpr ⟨f, hf, named⟩
      simp only [names, List.mem_cons, Option.some.injEq, List.not_mem_nil, or_false] at there
      rcases there with rfl | rfl <;> decide
    · rcases List.mem_cons.mp hf with rfl | hf
      · exact fun _ _ => Or.inl rfl
      · cases List.mem_singleton.mp hf
        rintro s ⟨⟩
        exact Or.inr rfl
  obtain ⟨shuffled, alone⟩ :=
    fields_do_not_interfere Registry.builtin.resolve (fun key _ => key.name) _ independent
  obtain ⟨out, compiled⟩ : ∃ out, orderWithRemark.compile Registry.builtin.resolve
      (fun key _ => key.name) = .ok out := ⟨_, rfl⟩
  obtain ⟨also, same⟩ := shuffled ([remark] ++ order.fields) List.perm_append_comm
  obtain ⟨other, turned⟩ := also.mpr ⟨out, compiled⟩
  obtain ⟨own, single, -, own_keys⟩ := (alone out compiled).2 remark
    (List.mem_append_right order.fields (List.mem_singleton_self _))
  refine ⟨out, other, own, compiled, turned, single, ?_, ?_, ?_⟩
  · exact (same out other compiled turned "lines.*.code").1
  · exact (own_keys _ (List.mem_singleton_self _) "remark" (by decide)).1
  · cases single
    rfl

end Request

end PayloadRules
