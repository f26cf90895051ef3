import PayloadRules.Proofs.Site.Tables
import PayloadRules.Request.Compile
import PayloadRules.Rule.Registry

/-!
# Compiling and checking agree

`Request.compile` and `Request.check` each take the fields of a request in order and
hand the required names on. The first also makes rules and labels and may stop at
a field; the second looks for disagreements alone.

`resolveFields` says which schemas they see and with which required names, apart
from what they do with them. A field is at fault when its schema has no rules. As
long as no field is at fault, compiling finds what checking finds, field by field;
labels have no faults of their own, since they exist where rules do.
-/

namespace PayloadRules

/-! ## The fields that are compiled -/

/-- A field with its merged schema and the names required once it is merged. -/
structure ResolvedField where
  field : Field
  schema : Schema
  required : NameSet

/-- The fields that have a schema, each resolved with the names that the fields
before it have left required. -/
def resolveFields (required : NameSet) : List Field → List ResolvedField
  | [] => []
  | f :: rest =>
    match f.resolve? required with
    | none => resolveFields required rest
    | some (schema, after) => ⟨f, schema, after⟩ :: resolveFields after rest

/-- The fields of a request that have a schema, resolved from left to right. -/
def Request.resolved (r : Request) : List ResolvedField := resolveFields r.requiredSet r.fields

/-- Why a field has no rules. -/
def ResolvedField.fault? (resolve : Resolver) (f : ResolvedField) : Option CompileError :=
  match f.schema.rules resolve Path.root f.required with
  | .error e => some e
  | .ok _ => none

theorem ResolvedField.fault?_eq_some_iff {resolve : Resolver} {f : ResolvedField}
    {e : CompileError} :
    f.fault? resolve = some e ↔ f.schema.rules resolve Path.root f.required = .error e := by
  rw [fault?]
  cases f.schema.rules resolve Path.root f.required with
  | error e' => exact ⟨fun h => congrArg _ (Option.some.inj h), fun h => by cases h; rfl⟩
  | ok set => exact ⟨fun h => (nomatch h), fun h => (nomatch h)⟩

theorem ResolvedField.fault?_eq_none_iff {resolve : Resolver} {f : ResolvedField} :
    f.fault? resolve = none ↔ ∃ set, f.schema.rules resolve Path.root f.required = .ok set := by
  rw [fault?]
  cases f.schema.rules resolve Path.root f.required with
  | error e => exact ⟨fun h => (nomatch h), fun ⟨_, h⟩ => (nomatch h)⟩
  | ok set => exact ⟨fun _ => ⟨set, rfl⟩, fun _ => rfl⟩

/-! ## One field -/

namespace Compilation

variable {resolve : Resolver} {format : Formatter} {request : String} {f : Field}
  {c : Compilation} {schema : Schema} {after : NameSet}

/-- What checking would have kept of a compilation. -/
def inspection (c : Compilation) : Inspection := ⟨c.required, c.diagnostics⟩

theorem addField_of_unresolved (h : f.resolve? c.required = none) :
    c.addField resolve format request f = .ok c := by
  rw [addField, h]

theorem addField_of_fault {e : CompileError} (h : f.resolve? c.required = some (schema, after))
    (fault : schema.rules resolve Path.root after = .error e) :
    c.addField resolve format request f = .error e := by
  simp only [addField, h, fault]
  rfl

/-- A field with rules is added, for it has labels too. -/
theorem addField_of_rules (format : Formatter) (request : String) {set : RuleSet}
    (h : f.resolve? c.required = some (schema, after))
    (compiled : schema.rules resolve Path.root after = .ok set) :
    ∃ next, c.addField resolve format request f = .ok next ∧ next.required = after ∧
      next.inspection = c.inspection.addField request f := by
  obtain ⟨table, labelled⟩ : ∃ table, schema.labels format = .ok table :=
    Schema.exists_labelsIn_of_rules compiled format false ""
  simp only [addField, h, compiled, labelled]
  refine ⟨_, rfl, rfl, ?_⟩
  simp only [inspection, Inspection.addField, h]

end Compilation

theorem Inspection.addField_of_unresolved {request : String} {c : Inspection} {f : Field}
    (h : f.resolve? c.required = none) : c.addField request f = c := by
  rw [addField, h]

/-! ## All fields -/

namespace Compilation

variable {resolve : Resolver} (format : Formatter) (request : String)

/-- The first field at fault ends the compilation. -/
theorem foldlM_addField_of_fault {e : CompileError} (fields : List Field) (c : Compilation)
    (fault : (resolveFields c.required fields).findSome? (ResolvedField.fault? resolve) = some e) :
    fields.foldlM (addField resolve format request) c = .error e := by
  induction fields generalizing c with
  | nil => cases fault
  | cons f rest ih =>
    rw [List.foldlM_cons]
    cases resolved : f.resolve? c.required with
    | none =>
      simp only [resolveFields, resolved] at fault
      rw [addField_of_unresolved resolved]
      exact ih c fault
    | some pair =>
      obtain ⟨schema, after⟩ := pair
      simp only [resolveFields, resolved, List.findSome?_cons] at fault
      cases rules : schema.rules resolve Path.root after with
      | error e' =>
        rw [ResolvedField.fault?_eq_some_iff.mpr rules] at fault
        cases fault
        rw [addField_of_fault resolved rules]
        rfl
      | ok set =>
        rw [ResolvedField.fault?_eq_none_iff.mpr ⟨set, rules⟩] at fault
        obtain ⟨next, added, required, -⟩ := addField_of_rules format request resolved rules
        rw [added]
        exact ih next (required ▸ fault)

/-- Without a field at fault the compilation goes through, and then it has found what
checking finds. -/
theorem foldlM_addField_of_sound (fields : List Field) (c : Compilation)
    (sound : (resolveFields c.required fields).findSome? (ResolvedField.fault? resolve) = none) :
    ∃ last, fields.foldlM (addField resolve format request) c = .ok last ∧
      last.inspection = fields.foldl (Inspection.addField request) c.inspection := by
  induction fields generalizing c with
  | nil => exact ⟨c, rfl, rfl⟩
  | cons f rest ih =>
    rw [List.foldlM_cons, List.foldl_cons]
    cases resolved : f.resolve? c.required with
    | none =>
      simp only [resolveFields, resolved] at sound
      have same : c.inspection.addField request f = c.inspection :=
        Inspection.addField_of_unresolved resolved
      rw [addField_of_unresolved resolved, same]
      exact ih c sound
    | some pair =>
      obtain ⟨schema, after⟩ := pair
      simp only [resolveFields, resolved, List.findSome?_cons] at sound
      cases rules : schema.rules resolve Path.root after with
      | error e =>
        rw [ResolvedField.fault?_eq_some_iff.mpr rules] at sound
        cases sound
      | ok set =>
        rw [ResolvedField.fault?_eq_none_iff.mpr ⟨set, rules⟩] at sound
        obtain ⟨next, added, required, found⟩ := addField_of_rules format request resolved rules
        rw [added, ← found]
        exact ih next (required ▸ sound)

end Compilation

/-! ## The request -/

namespace Request

variable {resolve : Resolver} {r : Request}

theorem compile_of_fault {e : CompileError} (format : Formatter)
    (fault : r.resolved.findSome? (ResolvedField.fault? resolve) = some e) :
    r.compile resolve format = .error e := by
  rw [compile, Compilation.foldlM_addField_of_fault format r.name r.fields
    { required := r.requiredSet } fault]
  rfl

/-- Without a field at fault only the disagreements that checking finds decide. -/
theorem compile_of_sound (format : Formatter)
    (sound : r.resolved.findSome? (ResolvedField.fault? resolve) = none) :
    ∃ out, r.compile resolve format =
      if r.check.isEmpty then .ok out else .error (.inconsistent r.name r.check) := by
  obtain ⟨last, ran, found⟩ := Compilation.foldlM_addField_of_sound format r.name r.fields
    { required := r.requiredSet } sound
  have same : last.diagnostics = r.check := congrArg Inspection.diagnostics found
  refine ⟨last.output, ?_⟩
  rw [compile, ran, ← same]
  rfl

/-- A request compiles as far as its check goes. The first field whose schema has no
rules decides, whatever the declarations say. Otherwise the disagreements found by
checking are the error, in their order, and without any there is an output. So a
request that is found wanting never compiles, and labels are never to blame. -/
theorem compile_agrees_with_check (resolve : Resolver) (format : Formatter) (r : Request) :
    (∀ e, r.resolved.findSome? (ResolvedField.fault? resolve) = some e →
        r.compile resolve format = .error e) ∧
      (r.resolved.findSome? (ResolvedField.fault? resolve) = none →
        (r.check ≠ [] → r.compile resolve format = .error (.inconsistent r.name r.check)) ∧
        (r.check = [] → ∃ out, r.compile resolve format = .ok out)) ∧
      (∀ out, r.compile resolve format = .ok out → r.check = []) ∧
      ∀ f ∈ r.resolved, ∀ set, f.schema.rules resolve Path.root f.required = .ok set →
        ∃ table, f.schema.labels format = .ok table := by
  have sound_ends (sound : r.resolved.findSome? (ResolvedField.fault? resolve) = none) :
      (r.check ≠ [] → r.compile resolve format = .error (.inconsistent r.name r.check)) ∧
        (r.check = [] → ∃ out, r.compile resolve format = .ok out) := by
    obtain ⟨out, ends⟩ := compile_of_sound format sound
    constructor
    · intro wanting
      rw [ends, if_neg (fun empty => wanting (List.isEmpty_iff.mp empty))]
    · intro clean
      rw [ends, if_pos (List.isEmpty_iff.mpr clean)]
      exact ⟨out, rfl⟩
  refine ⟨fun e fault => compile_of_fault format fault, sound_ends, ?_, ?_⟩
  · intro out compiled
    by_contra wanting
    cases ended : r.resolved.findSome? (ResolvedField.fault? resolve) with
    | some e =>
      rw [compile_of_fault format ended] at compiled
      cases compiled
    | none =>
      rw [(sound_ends ended).1 wanting] at compiled
      cases compiled
  · intro f _ set compiled
    exact Schema.exists_labelsIn_of_rules compiled format false ""

/-- A field that has nothing but a kind. -/
def kindField (name declared : String) (kind : Kind) : Field where
  name := name
  declared := ⟨declared, false⟩
  schema := some (.node { kind := some kind } [] none)

/-- An order with lines. -/
def order : Request where
  name := "Order"
  fields := [{ name := "lines", declared := ⟨"array", false⟩, schema := some Schema.orderLines }]

/-- An order whose note is declared as a number and described as a text. -/
def orderWithNote : Request :=
  { order with fields := order.fields ++ [kindField "note" "int" .string] }

/-- The same order with tags of which nothing is said. -/
def orderWithTags : Request :=
  { orderWithNote with fields := orderWithNote.fields ++ [kindField "tags" "array" .array] }

/-- The order compiles; the note is reported; the tags are an error in spite of the
note. -/
theorem orders_agree :
    (∃ out, order.compile Registry.builtin.resolve (fun key _ => key.name) = .ok out) ∧
      orderWithNote.check.map (·.field) = ["note"] ∧
      orderWithNote.compile Registry.builtin.resolve (fun key _ => key.name) =
        .error (.inconsistent "Order" orderWithNote.check) ∧
      orderWithTags.check ≠ [] ∧
      orderWithTags.compile Registry.builtin.resolve (fun key _ => key.name) =
        .error (.missingItemSchema ⟨["tags"]⟩) := by
  have agree (r : Request) :=
    compile_agrees_with_check Registry.builtin.resolve (fun key _ => key.name) r
  obtain ⟨-, plain, -⟩ := agree order
  obtain ⟨-, noted, -⟩ := agree orderWithNote
  obtain ⟨tagged, -⟩ := agree orderWithTags
  refine ⟨(plain rfl).2 rfl, rfl, (noted rfl).1 ?_, ?_, tagged _ rfl⟩
  · exact List.ne_nil_of_length_pos (by decide)
  · exact List.ne_nil_of_length_pos (by decide)

end Request

end PayloadRules
