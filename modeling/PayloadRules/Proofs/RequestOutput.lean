import PayloadRules.Proofs.Agreement

/-!
# What a request compiles to

A request compiles when every field with a schema is in order by itself: it has rules,
and its declaration agrees with its merged schema (`Request.exists_compile_iff`). What is
then found under a key is what the first field that has something there has there
(`Request.get?_of_compile`). So all that a request compiles to is known from the resolved
fields (`Request.compile_eq`), and only the required names pass from one field to the next.

Every key of a field begins with the name of the field, as long as that name is plain; the
names further down may hold points (`ResolvedField.owns_of_rulesAt?`).
-/

namespace PayloadRules

/-! ## One field -/

/-- All keys that a site of a top-level field answers for begin with the name of the
field. -/
theorem Site.firstSegment_of_mem_keys {required : NameSet} {s : Schema} {name key : String}
    {v : Site} (named : s.name? = some name) (plain : Plain name)
    (hv : v ∈ (top Path.root required s).preorder) (hk : key ∈ v.keys) :
    Path.firstSegment key = name := by
  rw [keys_eq_map, front_of_mem_preorder hv] at hk
  obtain ⟨t, ht, rfl⟩ := List.mem_map.mp hk
  obtain ⟨rest, rfl⟩ := (trail_prefix_of_mem_preorder hv).trans (trail_prefix_of_mem_trails ht)
  have top_trail : (top Path.root required s).trail = [name] := by
    rw [trail, named]
    rfl
  rw [top_trail]
  exact Path.firstSegment_join plain rest

namespace ResolvedField

/-- The rules that a field files under a key. -/
def rulesAt? (resolve : Resolver) (key : String) (f : ResolvedField) : Option (List Rule) :=
  match f.schema.rules resolve Path.root f.required with
  | .ok set => set.get? key
  | .error _ => none

/-- The label that a field files under a key. -/
def labelAt? (format : Formatter) (key : String) (f : ResolvedField) : Option String :=
  match f.schema.labels format with
  | .ok table => table.get? key
  | .error _ => none

/-- The rules of a field, empty while the field is at fault. -/
def ruleSet (resolve : Resolver) (f : ResolvedField) : RuleSet :=
  match f.schema.rules resolve Path.root f.required with
  | .ok set => set
  | .error _ => Table.empty

/-- The labels of a field, empty where there are none. -/
def labelTable (format : Formatter) (f : ResolvedField) : LabelTable :=
  match f.schema.labels format with
  | .ok table => table
  | .error _ => Table.empty

/-- Whether nothing is wrong with a field: it has rules and agrees with its schema. -/
def Sound (resolve : Resolver) (f : ResolvedField) : Prop :=
  f.fault? resolve = none ∧ f.field.diagnostics f.schema = []

/-- Whether a key begins with the name of a field. -/
def Owns (f : ResolvedField) (key : String) : Prop :=
  f.schema.name? = some (Path.firstSegment key)

instance (f : ResolvedField) (key : String) : Decidable (f.Owns key) :=
  inferInstanceAs (Decidable (f.schema.name? = some (Path.firstSegment key)))

variable {resolve : Resolver} {format : Formatter} {key : String} {f : ResolvedField}

theorem rulesAt?_of_rules {set : RuleSet}
    (compiled : f.schema.rules resolve Path.root f.required = .ok set) (key : String) :
    f.rulesAt? resolve key = set.get? key := by
  rw [rulesAt?, compiled]

theorem rulesAt?_eq_get? (f : ResolvedField) (key : String) :
    f.rulesAt? resolve key = (f.ruleSet resolve).get? key := by
  unfold rulesAt? ruleSet
  cases f.schema.rules resolve Path.root f.required <;> rfl

theorem labelAt?_eq_get? (f : ResolvedField) (key : String) :
    f.labelAt? format key = (f.labelTable format).get? key := by
  unfold labelAt? labelTable
  cases f.schema.labels format <;> rfl

/-- All rules of a field stand under keys that begin with its name. -/
theorem owns_of_rulesAt? (plain : ∀ name, f.schema.name? = some name → Plain name)
    (there : f.rulesAt? resolve key ≠ none) : f.Owns key := by
  rw [rulesAt?] at there
  cases compiled : f.schema.rules resolve Path.root f.required with
  | error e =>
    rw [compiled] at there
    exact (there rfl).elim
  | ok set =>
    rw [compiled] at there
    obtain ⟨rules, found⟩ := Option.ne_none_iff_exists'.mp there
    obtain ⟨name, named⟩ := Option.ne_none_iff_exists'.mp
      (Schema.named_of_rules compiled _ (Site.mem_preorder_self _) rfl)
    dsimp only at found
    rw [← (Schema.rules_eq_ok_iff.mp compiled).2] at found
    have filed := Table.mem_names_of_get?_ofFirst found
    rw [Site.map_fst_ruleEntry] at filed
    obtain ⟨v, hv, rfl⟩ := List.mem_map.mp filed
    rw [Owns, Site.firstSegment_of_mem_keys named (plain name named) hv List.mem_cons_self]
    exact named

/-- So do its labels. -/
theorem owns_of_labelAt? (plain : ∀ name, f.schema.name? = some name → Plain name)
    (there : f.labelAt? format key ≠ none) : f.Owns key := by
  rw [labelAt?] at there
  cases labelled : f.schema.labels format with
  | error e =>
    rw [labelled] at there
    exact (there rfl).elim
  | ok table =>
    rw [labelled] at there
    obtain ⟨label, found⟩ := Option.ne_none_iff_exists'.mp there
    obtain ⟨name, named⟩ := Option.ne_none_iff_exists'.mp
      (Schema.named_of_labelsIn f.required labelled _
        (List.mem_filter.mpr ⟨Site.mem_preorder_self _, rfl⟩) rfl)
    dsimp only at found
    rw [← ((Schema.labelsIn_eq_ok_iff f.required).mp labelled).2] at found
    have filed := Table.mem_names_of_get?_ofFirst found
    rw [List.map_flatMap, List.flatMap_congr fun v _ => Site.map_fst_labelEntries v] at filed
    obtain ⟨v, hv, hk⟩ := List.mem_flatMap.mp filed
    have answered := (Site.labelKeys_sublist_keys v).subset hk
    rw [Owns, Site.firstSegment_of_mem_keys named (plain name named)
      (List.mem_of_mem_filter hv) answered]
    exact named

theorem exists_rules_of_sound (sound : f.Sound resolve) :
    ∃ set, f.schema.rules resolve Path.root f.required = .ok set :=
  fault?_eq_none_iff.mp sound.1

end ResolvedField

/-! ## One step -/

namespace Compilation

variable {resolve : Resolver} {format : Formatter} {request : String} {f : Field}
  {c next : Compilation}

/-- What adding a field does when it succeeds: nothing for a field without a schema; for
any other field the rules, the labels and the disagreements are put behind those found
so far. -/
theorem addField_eq_ok (added : c.addField resolve format request f = .ok next) :
    (f.resolve? c.required = none ∧ next = c) ∨
    ∃ schema after set table, f.resolve? c.required = some (schema, after) ∧
      schema.rules resolve Path.root after = .ok set ∧ schema.labels format = .ok table ∧
      next = {
        required := after
        output := ⟨c.output.rules.extend set, c.output.labels.extend table⟩
        diagnostics := c.diagnostics ++ f.taggedDiagnostics request schema } := by
  cases resolved : f.resolve? c.required with
  | none =>
    rw [addField_of_unresolved resolved] at added
    exact Or.inl ⟨rfl, (Except.ok.inj added).symm⟩
  | some pair =>
    obtain ⟨schema, after⟩ := pair
    refine Or.inr ⟨schema, after, ?_⟩
    cases rules : schema.rules resolve Path.root after with
    | error e =>
      rw [addField_of_fault resolved rules] at added
      cases added
    | ok set =>
      obtain ⟨table, labelled⟩ : ∃ table, schema.labels format = .ok table :=
        Schema.exists_labelsIn_of_rules rules format false ""
      simp only [addField, resolved, rules, labelled] at added
      exact ⟨set, table, rfl, rfl, labelled, (Except.ok.inj added).symm⟩

/-- After all fields the tables of the fields stand behind what was there before. -/
theorem output_of_foldlM (fields : List Field) {c last : Compilation}
    (ran : fields.foldlM (addField resolve format request) c = .ok last) :
    last.output.rules = (resolveFields c.required fields).foldl
        (fun t f => t.extend (f.ruleSet resolve)) c.output.rules ∧
      last.output.labels = (resolveFields c.required fields).foldl
        (fun t f => t.extend (f.labelTable format)) c.output.labels := by
  induction fields generalizing c with
  | nil =>
    cases ran
    exact ⟨rfl, rfl⟩
  | cons f rest ih =>
    rw [List.foldlM_cons] at ran
    cases added : c.addField resolve format request f with
    | error e =>
      rw [added] at ran
      cases ran
    | ok next =>
      rw [added] at ran
      obtain ⟨rules, labels⟩ := ih ran
      obtain ⟨resolved, rfl⟩ | ⟨schema, after, set, table, resolved, compiled, labelled, rfl⟩ :=
        addField_eq_ok added
      · rw [resolveFields, resolved]
        exact ⟨rules, labels⟩
      · rw [rules, labels, resolveFields, resolved]
        simp only [List.foldl_cons, ResolvedField.ruleSet, ResolvedField.labelTable, compiled,
          labelled, and_self]

end Compilation

/-! ## The request -/

namespace Inspection

/-- Checking collects the disagreements of the fields with a schema, one after the other. -/
theorem diagnostics_foldl (request : String) (fields : List Field) (c : Inspection) :
    (fields.foldl (addField request) c).diagnostics =
      c.diagnostics ++ (resolveFields c.required fields).flatMap fun f =>
        f.field.taggedDiagnostics request f.schema := by
  induction fields generalizing c with
  | nil => exact (List.append_nil _).symm
  | cons f rest ih =>
    rw [List.foldl_cons, ih, resolveFields, addField]
    cases f.resolve? c.required with
    | none => rfl
    | some pair =>
      rw [List.flatMap_cons, ← List.append_assoc]

end Inspection

namespace Request

variable {resolve : Resolver} {format : Formatter} {r : Request} {out : CompiledRequest}

theorem check_eq_flatMap (r : Request) :
    r.check = r.resolved.flatMap fun f => f.field.taggedDiagnostics r.name f.schema :=
  Inspection.diagnostics_foldl r.name r.fields { required := r.requiredSet }

/-- A request passes its check when each field agrees with its own schema. -/
theorem check_eq_nil_iff :
    r.check = [] ↔ ∀ f ∈ r.resolved, f.field.diagnostics f.schema = [] := by
  rw [check_eq_flatMap, List.flatMap_eq_nil_iff]
  simp only [Field.taggedDiagnostics, List.map_eq_nil_iff]

/-- A request compiles when nothing is wrong with any of its fields. -/
theorem exists_compile_iff :
    (∃ out, r.compile resolve format = .ok out) ↔ ∀ f ∈ r.resolved, f.Sound resolve := by
  have verdict : (∀ f ∈ r.resolved, f.Sound resolve) ↔
      r.resolved.findSome? (ResolvedField.fault? resolve) = none ∧ r.check = [] := by
    rw [List.findSome?_eq_none_iff, check_eq_nil_iff]
    exact ⟨fun all => ⟨fun f hf => (all f hf).1, fun f hf => (all f hf).2⟩,
      fun both f hf => ⟨both.1 f hf, both.2 f hf⟩⟩
  rw [verdict]
  cases ended : r.resolved.findSome? (ResolvedField.fault? resolve) with
  | some e =>
    rw [compile_of_fault format ended]
    exact iff_of_false (fun ⟨_, h⟩ => nomatch h) fun both => nomatch both.1
  | none =>
    obtain ⟨out, ends⟩ := compile_of_sound format ended
    rw [ends, and_iff_right rfl, ← List.isEmpty_iff]
    cases r.check.isEmpty with
    | true => exact iff_of_true ⟨out, rfl⟩ rfl
    | false => exact iff_of_false (fun ⟨_, h⟩ => nomatch h) Bool.false_ne_true

/-- The rules and labels of all fields with a schema, one field after the other. -/
def output (resolve : Resolver) (format : Formatter) (r : Request) : CompiledRequest where
  rules := r.resolved.foldl (fun t f => t.extend (f.ruleSet resolve)) Table.empty
  labels := r.resolved.foldl (fun t f => t.extend (f.labelTable format)) Table.empty

theorem eq_output_of_compile (compiled : r.compile resolve format = .ok out) :
    out = r.output resolve format := by
  rw [compile] at compiled
  cases ran : r.fields.foldlM (Compilation.addField resolve format r.name)
      { required := r.requiredSet } with
  | error e =>
    rw [ran] at compiled
    cases compiled
  | ok last =>
    rw [ran] at compiled
    obtain ⟨rules, labels⟩ := Compilation.output_of_foldlM r.fields ran
    change last.finish r.name = .ok out at compiled
    rw [Compilation.finish] at compiled
    split at compiled
    · cases compiled
      rw [output, resolved, ← rules, ← labels]
    · cases compiled

/-- Compiling without recursion: the first field at fault decides, then what checking
finds, and after that the output is there. -/
theorem compile_eq (resolve : Resolver) (format : Formatter) (r : Request) :
    r.compile resolve format =
      match r.resolved.findSome? (ResolvedField.fault? resolve) with
      | some e => .error e
      | none =>
        if r.check.isEmpty then .ok (r.output resolve format)
        else .error (.inconsistent r.name r.check) := by
  cases ended : r.resolved.findSome? (ResolvedField.fault? resolve) with
  | some e => exact compile_of_fault format ended
  | none =>
    obtain ⟨out, ends⟩ := compile_of_sound format ended
    by_cases clean : r.check.isEmpty
    · have compiled : r.compile resolve format = .ok out := by rw [ends, if_pos clean]
      rw [compiled, eq_output_of_compile compiled, if_pos clean]
    · rw [ends, if_neg clean, if_neg clean]

/-- Under a key stands what the first field with that key has there. -/
theorem get?_of_compile (compiled : r.compile resolve format = .ok out) (key : String) :
    out.rules.get? key = r.resolved.findSome? (ResolvedField.rulesAt? resolve key) ∧
      out.labels.get? key = r.resolved.findSome? (ResolvedField.labelAt? format key) := by
  have rules : ResolvedField.rulesAt? resolve key = fun f => (f.ruleSet resolve).get? key :=
    funext fun f => f.rulesAt?_eq_get? key
  have labels : ResolvedField.labelAt? format key = fun f => (f.labelTable format).get? key :=
    funext fun f => f.labelAt?_eq_get? key
  rw [eq_output_of_compile compiled, rules, labels]
  constructor
  · rw [output, Table.get?_foldl_extend, Table.get?_empty, Option.none_or]
  · rw [output, Table.get?_foldl_extend, Table.get?_empty, Option.none_or]

end Request

end PayloadRules
