import PayloadRules.Proofs.RequestOutput

/-!
# Rules and labels are kept apart

What a request says has two aspects besides its shape. Its *wording*, the descriptions, is
for people and goes into labels. Its *demands*, which are the required names, the
constraints and the hints, are for the validator and go into rules. Leaving out the one does
not change the rules, and leaving out the other does not change the labels.

Both are erasures (`Request.without`), and all that is said here follows from how an erasure
goes through a compilation. It commutes with the merge (`Schema.merge_without`), where a
binding fills in what its node does not say, with the walk over positions
(`Schema.positions_without`) and so with the resolving of fields
(`Request.resolved_without`). Kinds, names and nullability stay in any case. Hence the same
fields are at fault, and checking finds the same (`Request.map_compile_without`).
-/

namespace PayloadRules

/-! ## The two aspects -/

/-- What can be left out of a request. -/
inductive Aspect where
  /-- Descriptions. -/
  | wording
  /-- Required names, constraints and extensions. -/
  | demands
deriving DecidableEq, Repr

variable (a : Aspect)

/-- A declared list of required names is a demand. -/
def Aspect.declared (names : Option (List String)) : Option (List String) :=
  match a with
  | .wording => names
  | .demands => none

/-- So are the names that are required around a node. -/
def NameSet.without (s : NameSet) : NameSet :=
  match a with
  | .wording => s
  | .demands => NameSet.empty

def Binding.without (b : Binding) : Binding :=
  match a with
  | .wording => { b with description := none }
  | .demands => { b with required := none, extensions := Table.empty, constraints := {} }

def Facets.without (f : Facets) : Facets :=
  match a with
  | .wording => { f with description := none, binding := f.binding.map (Binding.without .wording) }
  | .demands =>
    { f with
      required := none
      constraints := {}
      extensions := Table.empty
      binding := f.binding.map (Binding.without .demands) }

namespace Schema

mutual

def without : Schema → Schema
  | node f properties items => node (f.without a) (withoutAll properties) (withoutItems items)

def withoutAll : List Schema → List Schema
  | [] => []
  | s :: rest => without s :: withoutAll rest

def withoutItems : Option Schema → Option Schema
  | none => none
  | some s => some (without s)

end

end Schema

namespace Fragment

mutual

/-- A fragment without an aspect. Its name stays. -/
def without : Fragment → Fragment
  | mk name required includes => mk name (a.declared required) (withoutAll includes)

def withoutAll : List Fragment → List Fragment
  | [] => []
  | f :: rest => without f :: withoutAll rest

end

end Fragment

def Field.without (f : Field) : Field :=
  { f with schema := f.schema.map (Schema.without a), binding := f.binding.map (Binding.without a) }

/-- The request without an aspect, at any depth. -/
def Request.without (r : Request) : Request :=
  { r with
    includes := Fragment.withoutAll a r.includes
    required := a.declared r.required
    fields := r.fields.map (Field.without a) }

def Position.without (p : Position) : Position :=
  { p with
    facets := p.facets.without a
    requiredThere := p.requiredThere.map (NameSet.without a) }

def ResolvedField.without (f : ResolvedField) : ResolvedField :=
  ⟨f.field.without a, f.schema.without a, f.required.without a⟩

variable {a}

/-! ## Required names -/

theorem NameSet.without_empty : empty.without a = empty := by cases a <;> rfl

theorem NameSet.without_union (s t : NameSet) :
    (s.union t).without a = (s.without a).union (t.without a) := by
  cases a <;> rfl

theorem NameSet.ofDeclared_declared (names : Option (List String)) :
    ofDeclared (a.declared names) = (ofDeclared names).without a := by
  cases a <;> rfl

namespace Fragment

mutual

theorem requiredSet_without : ∀ f : Fragment, (f.without a).requiredSet = f.requiredSet.without a
  | mk name required includes => by
    simp only [without, requiredSet, NameSet.without_union, NameSet.ofDeclared_declared,
      ← requiredOfAll_withoutAll includes, NameSet.without_empty]

theorem requiredOfAll_withoutAll : ∀ (fs : List Fragment) (names : NameSet),
    requiredOfAll (names.without a) (withoutAll a fs) = (requiredOfAll names fs).without a
  | [], _ => by simp only [withoutAll, requiredOfAll]
  | f :: rest, names => by
    simp only [withoutAll, requiredOfAll, requiredSet_without f, ← NameSet.without_union,
      requiredOfAll_withoutAll rest]

end

end Fragment

theorem Request.requiredSet_without (r : Request) :
    (r.without a).requiredSet = r.requiredSet.without a := by
  simp only [without, requiredSet, NameSet.without_union, NameSet.ofDeclared_declared,
    ← Fragment.requiredOfAll_withoutAll, NameSet.without_empty]

/-! ## Nodes -/

namespace Facets

variable (f : Facets) (b : Binding)

@[simp]
theorem kind_without : (f.without a).kind = f.kind := by cases a <;> rfl

@[simp]
theorem key_without : (f.without a).key = f.key := by cases a <;> rfl

@[simp]
theorem binding_without : (f.without a).binding = f.binding.map (Binding.without a) := by
  cases a <;> rfl

@[simp]
theorem isNullable_without : (f.without a).isNullable = f.isNullable := by cases a <;> rfl

theorem required_without : (f.without a).required = a.declared f.required := by cases a <;> rfl

@[simp]
theorem requiredSet_without : (f.without a).requiredSet = f.requiredSet.without a := by
  rw [requiredSet, required_without, NameSet.ofDeclared_declared, requiredSet]

theorem name?_without : (f.without a).name? = f.name? := by
  have bound : ∀ b : Binding, (b.without a).keyName f.kind = b.keyName f.kind := by
    intro b
    cases a <;> rfl
  have title : (f.without a).title = f.title := by cases a <;> rfl
  simp only [name?, title, key_without, kind_without, binding_without, Option.bind_map,
    Function.comp_def, bound]

/-- What a binding fills in is left out with the rest. -/
theorem mergeBinding_without :
    (f.without a).mergeBinding (b.without a) = (f.mergeBinding b).without a := by
  cases a <;> rfl

/-- A binding without demands asks for nothing, and around a request without demands no names
are required. -/
theorem joinRequired_without (enclosing : NameSet) :
    (b.without a).joinRequired (f.without a) (enclosing.without a) =
      (b.joinRequired f enclosing).without a := by
  cases a with
  | wording =>
    unfold Binding.joinRequired
    rw [name?_without]
    rfl
  | demands => rfl

theorem mergeAttached_without (enclosing : NameSet) :
    (f.without a).mergeAttached (enclosing.without a) =
      ((f.mergeAttached enclosing).1.without a, (f.mergeAttached enclosing).2.without a) := by
  cases bound : f.binding with
  | none => simp only [mergeAttached, binding_without, bound, Option.map_none]
  | some b =>
    have detached : { f.without a with binding := none } =
        ({ f with binding := none } : Facets).without a := by
      cases a <;> rfl
    simp only [mergeAttached, binding_without, bound, Option.map_some, detached,
      mergeBinding_without, joinRequired_without]

/-- A list that grows is written back, and left out all the same. -/
theorem withRequired_without (required : NameSet) :
    (f.without a).withRequired (required.without a) = (f.withRequired required).without a := by
  unfold withRequired
  cases a with
  | wording =>
    by_cases grown : f.requiredSet.size < required.size
    · rw [if_pos grown]
      exact if_pos grown
    · rw [if_neg grown]
      exact if_neg grown
  | demands =>
    have stays : ¬ (f.requiredSet.without .demands).size < (required.without .demands).size :=
      Nat.lt_irrefl 0
    rw [requiredSet_without, if_neg stays]
    split <;> rfl

/-- Descriptions are the only part of a label that is not a name. -/
theorem label_without : (f.without .demands).label = f.label := by
  simp only [label, without, Option.bind_map, Function.comp_def, Binding.without]

end Facets

/-! ## Trees -/

namespace Schema

theorem withoutAll_eq_nil_iff {ps : List Schema} : withoutAll a ps = [] ↔ ps = [] := by
  cases ps <;> simp only [withoutAll, reduceCtorEq]

section Parts

variable (s : Schema)

theorem facets_without : (s.without a).facets = s.facets.without a := by
  cases s with
  | node f ps i =>
    rw [without]
    rfl

theorem kind_without : (s.without a).kind = s.kind := by
  rw [kind, facets_without, Facets.kind_without, kind]

theorem isNullable_without : (s.without a).isNullable = s.isNullable := by
  rw [isNullable, facets_without, Facets.isNullable_without, isNullable]

/-- Leaving out goes along with a change of facets. -/
theorem modify_without {change : Facets → Facets} {changed : Facets → Facets}
    (along : ∀ f : Facets, changed (f.without a) = (change f).without a) :
    (s.without a).modify changed = (s.modify change).without a := by
  cases s with
  | node f ps i => simp only [without, modify, along]

end Parts

mutual

/-- A merge of the rest is the rest of the merge, in the tree and around it. -/
theorem merge_without : ∀ (s : Schema) (enclosing : NameSet),
    (s.without a).merge (enclosing.without a) =
      ((s.merge enclosing).1.without a, (s.merge enclosing).2.without a)
  | node f ps i, enclosing => by
    simp only [without, merge, Facets.mergeAttached_without, Facets.requiredSet_without,
      mergeAll_without ps, mergeItems_without i, Facets.withRequired_without]

theorem mergeAll_without : ∀ (ps : List Schema) (enclosing : NameSet),
    mergeAll (enclosing.without a) (withoutAll a ps) =
      (withoutAll a (mergeAll enclosing ps).1, (mergeAll enclosing ps).2.without a)
  | [], _ => by simp only [withoutAll, mergeAll]
  | p :: rest, enclosing => by
    simp only [withoutAll, mergeAll, merge_without p, mergeAll_without rest]

theorem mergeItems_without : ∀ i : Option Schema,
    mergeItems (withoutItems a i) = withoutItems a (mergeItems i)
  | none => by simp only [withoutItems, mergeItems]
  | some s => by
    have alone := merge_without s NameSet.empty
    rw [NameSet.without_empty] at alone
    simp only [withoutItems, mergeItems, alone]

end

mutual

/-- The walk over positions finds the same places, or ends with the same error. -/
theorem positions_without : ∀ (s : Schema) (container : Path) (required : NameSet),
    (s.without a).positions container (required.without a) =
      (s.positions container required).map (List.map (Position.without a))
  | node f ps i, container, required => by
    simp only [without, positions, Facets.name?_without, Facets.kind_without,
      Facets.required_without, NameSet.ofDeclared_declared]
    cases f.name? with
    | none => rfl
    | some name =>
      rw [nameUnder_some, pure_bind, pure_bind]
      by_cases array : f.kind = some .array
      · simp only [array, if_true, itemPositions_without i]
        cases itemPositions (container.child name) i <;> rfl
      · simp only [array, if_false, propertyPositions_without ps]
        cases propertyPositions (container.child name) (NameSet.ofDeclared f.required) ps <;> rfl

theorem itemPositions_without : ∀ (i : Option Schema) (array : Path),
    itemPositions array (withoutItems a i) =
      (itemPositions array i).map (List.map (Position.without a))
  | none, _ => by
    simp only [withoutItems, itemPositions]
    rfl
  | some (node f ps i), array => by
    simp only [withoutItems, without, itemPositions, Facets.kind_without, ne_eq,
      withoutAll_eq_nil_iff, Facets.required_without, NameSet.ofDeclared_declared,
      propertyPositions_without ps, itemPositions_without i]
    by_cases fields : f.kind = some .object ∨ ¬ ps = []
    · rw [if_pos fields, if_pos fields]
    · rw [if_neg fields, if_neg fields]
      by_cases inner : f.kind = some .array
      · rw [if_pos inner, if_pos inner]
        cases itemPositions array.wildcard i <;> rfl
      · rw [if_neg inner, if_neg inner]
        rfl

theorem propertyPositions_without : ∀ (ps : List Schema) (container : Path) (required : NameSet),
    propertyPositions container (required.without a) (withoutAll a ps) =
      (propertyPositions container required ps).map (List.map (Position.without a))
  | [], _, _ => by
    simp only [withoutAll, propertyPositions]
    rfl
  | p :: rest, container, required => by
    simp only [withoutAll, propertyPositions, positions_without p,
      propertyPositions_without rest]
    cases first : p.positions container required with
    | error e => rfl
    | ok found =>
      cases others : propertyPositions container required rest with
      | error e => rfl
      | ok more => exact congrArg Except.ok List.map_append.symm

end

/-! ## Labels -/

variable (format : Formatter)

mutual

/-- The walk over labels reads no demands. -/
theorem labelEntries_without : ∀ (s : Schema) (container : Path) (inside : Bool) (root : String),
    (s.without .demands).labelEntries format container inside root =
      s.labelEntries format container inside root
  | node f ps i, container, inside, root => by
    simp only [without, labelEntries, Facets.name?_without, Facets.kind_without,
      Facets.label_without, ne_eq, withoutAll_eq_nil_iff, itemLabels_without i,
      propertyLabels_without ps]

theorem itemLabels_without : ∀ (i : Option Schema) (array : Path) (root : String),
    itemLabels format array root (withoutItems .demands i) = itemLabels format array root i
  | none, _, _ => by simp only [withoutItems]
  | some (node f ps _), array, root => by
    simp only [withoutItems, without, itemLabels, Facets.kind_without, ne_eq,
      withoutAll_eq_nil_iff, propertyLabels_without ps]

theorem propertyLabels_without :
    ∀ (ps : List Schema) (container : Path) (inside : Bool) (root : String),
    propertyLabels format container inside root (withoutAll .demands ps) =
      propertyLabels format container inside root ps
  | [], _, _, _ => by simp only [withoutAll]
  | p :: rest, container, inside, root => by
    simp only [withoutAll, propertyLabels, labelEntries_without p, propertyLabels_without rest]

end

theorem labels_without (s : Schema) : (s.without .demands).labels format = s.labels format := by
  rw [labels, labelsIn, labelEntries_without, labels, labelsIn]

/-! ## Rules -/

/-- The rules of a node and of a place do not read its wording. -/
theorem entry_without (resolve : Resolver) (p : Position) :
    (p.without .wording).entry resolve = p.entry resolve := by
  have there : p.requiredThere.map (NameSet.without .wording) = p.requiredThere :=
    congrFun Option.map_id p.requiredThere
  have same : p.without .wording = { p with facets := p.facets.without .wording } := by
    rw [Position.without, there]
  rw [same]
  rfl

theorem rules_without (resolve : Resolver) (container : Path) (required : NameSet) (s : Schema) :
    (s.without .wording).rules resolve container required = s.rules resolve container required := by
  have found : (s.without .wording).positions container required =
      (s.positions container required).map (List.map (Position.without .wording)) :=
    positions_without (a := .wording) s container required
  rw [rules, rulesInto, found, rules, rulesInto]
  cases s.positions container required with
  | error e => rfl
  | ok ps =>
    have entries : (ps.map (Position.without .wording)).map (Position.entry resolve) =
        ps.map (Position.entry resolve) := by
      rw [List.map_map]
      exact List.map_congr_left fun p _ => entry_without resolve p
    simp only [Except.map, entries]

end Schema

/-! ## Fields -/

theorem Schema.mergeBinding_without (s : Schema) (b : Binding) (enclosing : NameSet) :
    (s.without a).mergeBinding (b.without a) (enclosing.without a) =
      ((s.mergeBinding b enclosing).1.without a, (s.mergeBinding b enclosing).2.without a) := by
  have merged : (s.without a).modify (fun f => f.mergeBinding (b.without a)) =
      (s.modify fun f => f.mergeBinding b).without a :=
    modify_without s fun f => f.mergeBinding_without b
  simp only [mergeBinding, merged, facets_without, Facets.joinRequired_without]

namespace Field

variable (f : Field)

theorem keyedSchema_without (s : Schema) :
    (f.without a).keyedSchema (s.without a) = (f.keyedSchema s).without a := by
  refine Schema.modify_without s fun facets => ?_
  cases a <;> rfl

/-- A field resolves to what is left of its schema, and leaves what is left of the required
names. -/
theorem resolve?_without (required : NameSet) :
    (f.without a).resolve? (required.without a) =
      (f.resolve? required).map fun found => (found.1.without a, found.2.without a) := by
  have schema : (f.without a).schema = f.schema.map (Schema.without a) := rfl
  have binding : (f.without a).binding = f.binding.map (Binding.without a) := rfl
  rw [resolve?, resolve?, schema, binding]
  cases f.schema with
  | none => rfl
  | some s =>
    cases f.binding with
    | none =>
      simp only [Option.map_some, Option.map_none, keyedSchema_without, Schema.merge_without]
    | some b =>
      simp only [Option.map_some, keyedSchema_without, Schema.mergeBinding_without,
        Schema.merge_without]

end Field

theorem resolveFields_without (required : NameSet) (fields : List Field) :
    resolveFields (required.without a) (fields.map (Field.without a)) =
      (resolveFields required fields).map (ResolvedField.without a) := by
  induction fields generalizing required with
  | nil => rfl
  | cons f rest ih =>
    rw [List.map_cons, resolveFields, resolveFields, Field.resolve?_without]
    cases f.resolve? required with
    | none => exact ih required
    | some found => exact congrArg (_ :: ·) (ih found.2)

namespace ResolvedField

variable {resolve : Resolver} {format : Formatter} (f : ResolvedField)

/-- A field is at fault whatever is left out, and whatever its hints stand for. -/
theorem fault?_without (elsewhere : Resolver) :
    (f.without a).fault? elsewhere = f.fault? resolve := by
  simp only [fault?, without, Schema.rules, Schema.rulesInto, Schema.positions_without]
  cases f.schema.positions Path.root f.required <;> rfl

/-- A declaration is compared with what no aspect is about. -/
theorem taggedDiagnostics_without (request : String) :
    (f.without a).field.taggedDiagnostics request (f.without a).schema =
      f.field.taggedDiagnostics request f.schema := by
  simp only [Field.taggedDiagnostics, Field.diagnostics, without, Schema.kind_without,
    Schema.isNullable_without]
  rfl

theorem ruleSet_without : (f.without .wording).ruleSet resolve = f.ruleSet resolve := by
  simp only [ruleSet, without, Schema.rules_without]
  rfl

theorem labelTable_without : (f.without .demands).labelTable format = f.labelTable format := by
  simp only [labelTable, without, Schema.labels_without]

end ResolvedField

/-! ## Requests -/

namespace Request

variable {resolve elsewhere : Resolver} {format writer : Formatter} (r : Request)

theorem resolved_without : (r.without a).resolved = r.resolved.map (ResolvedField.without a) := by
  rw [resolved, requiredSet_without, resolved, ← resolveFields_without]
  rfl

theorem check_without : (r.without a).check = r.check := by
  simp only [check_eq_flatMap, resolved_without, List.flatMap_map,
    ResolvedField.taggedDiagnostics_without]
  rfl

/-- The outcome of a compilation does not change with what is left out. What it gives changes
as much as the output does. -/
theorem map_compile_without {β : Type} {view : CompiledRequest → β}
    (same : view ((r.without a).output elsewhere writer) = view (r.output resolve format)) :
    ((r.without a).compile elsewhere writer).map view = (r.compile resolve format).map view := by
  have faults : (r.without a).resolved.findSome? (ResolvedField.fault? elsewhere) =
      r.resolved.findSome? (ResolvedField.fault? resolve) := by
    rw [resolved_without, List.findSome?_map]
    exact congrArg (List.findSome? · r.resolved) (funext fun f => f.fault?_without elsewhere)
  rw [compile_eq, compile_eq, faults, check_without]
  cases r.resolved.findSome? (ResolvedField.fault? resolve) with
  | some e => rfl
  | none =>
    by_cases clean : r.check.isEmpty
    · simp only [if_pos clean]
      exact congrArg Except.ok same
    · simp only [if_neg clean]
      rfl

theorem rules_without (resolve : Resolver) (format writer : Formatter) :
    ((r.without .wording).compile resolve writer).map CompiledRequest.rules =
      (r.compile resolve format).map CompiledRequest.rules := by
  apply map_compile_without
  simp only [output, resolved_without, List.foldl_map, ResolvedField.ruleSet_without]

theorem labels_without (resolve elsewhere : Resolver) (format : Formatter) :
    ((r.without .demands).compile elsewhere format).map CompiledRequest.labels =
      (r.compile resolve format).map CompiledRequest.labels := by
  apply map_compile_without
  simp only [output, resolved_without, List.foldl_map, ResolvedField.labelTable_without]

/-- Rules and labels do not leak into each other. Requests that differ in their descriptions
only have the same outcome and the same rules, whatever writes their labels. Requests that
differ in required names, constraints and extensions only have the same outcome and the same
labels, whatever their hints stand for. -/
theorem rules_and_labels_apart (r s : Request) :
    (r.without .wording = s.without .wording →
      ∀ (resolve : Resolver) (format writer : Formatter),
        (r.compile resolve format).map CompiledRequest.rules =
          (s.compile resolve writer).map CompiledRequest.rules) ∧
    (r.without .demands = s.without .demands →
      ∀ (resolve elsewhere : Resolver) (format : Formatter),
        (r.compile resolve format).map CompiledRequest.labels =
          (s.compile elsewhere format).map CompiledRequest.labels) := by
  constructor
  · intro same resolve format writer
    rw [← rules_without r resolve format writer, same, rules_without s resolve writer writer]
  · intro same resolve elsewhere format
    rw [← labels_without r resolve elsewhere format, same, labels_without s elsewhere elsewhere]

/-- A message with a note that has to be sent. -/
def message (description : Option String) (limit : Option Nat) : Request where
  name := "Message"
  fields := [{
    name := "note"
    declared := ⟨"string", false⟩
    schema := some (.node { kind := some .string, constraints := { maxLength := limit } } [] none)
    binding := some { required := some true, description := description } }]

/-- Describing the note changes its label alone, and bounding it changes its rules alone. -/
theorem parts_of_message :
    ((message (some "Your note") (some 80)).without .wording =
        (message none (some 80)).without .wording ∧
      (message none (some 80)).without .demands = (message none none).without .demands) ∧
    ((message (some "Your note") (some 80)).compile Registry.builtin.resolve
        (fun key _ => key.name)).map CompiledRequest.rules =
      ((message none (some 80)).compile Registry.builtin.resolve (fun _ _ => "")).map
        CompiledRequest.rules ∧
    ((message none (some 80)).compile Registry.builtin.resolve (fun key _ => key.name)).map
        CompiledRequest.labels =
      ((message none none).compile Registry.empty.resolve (fun key _ => key.name)).map
        CompiledRequest.labels ∧
    ((message (some "Your note") (some 80)).compile Registry.builtin.resolve
        (fun key _ => key.name)).map (·.labels.get? "note") = .ok (some "Your note") ∧
    ((message none (some 80)).compile Registry.builtin.resolve
        (fun key _ => key.name)).map (·.rules.get? "note") =
      .ok (some [.required, .type .string, .max (.int 80)]) := by
  have described : (message (some "Your note") (some 80)).without .wording =
      (message none (some 80)).without .wording := rfl
  have bounded : (message none (some 80)).without .demands =
      (message none none).without .demands := rfl
  refine ⟨⟨described, bounded⟩, ?_, ?_, rfl, rfl⟩
  · exact (rules_and_labels_apart _ _).1 described Registry.builtin.resolve _ _
  · exact (rules_and_labels_apart _ _).2 bounded Registry.builtin.resolve _ _

end Request

end PayloadRules
