import PayloadRules.Proofs.Presence

/-!
# The order of a rule list

A rule list has a fixed order, and what reads it may rely on that order. `RuleParts` is
such a list taken apart: every part stands at its place and gives at most one rule, and
what the `validation` hints stand for is set apart, since nothing is known of it. Every
list of a rule set has such parts, those of the first node that answers for its key
(`Schema.rules_in_order`).

The parts of one node do not contradict each other (`RuleParts.Consistent`). A file has no
other type, a hint for the spelling stands in for the pattern of the schema, and what may
be null is not asked for, unless it is an object, which has to be there even as null. This
is seen topic by topic: what a list says on a topic are the few parts that are about it
(`RuleParts.filter_own`).
-/

namespace PayloadRules

/-! ## Hints -/

/-- Only null has no text. -/
theorem Hints.scalarText_eq_none_iff {value : Json} : scalarText value = none ↔ value = .null := by
  cases value <;> simp [scalarText]

namespace Facets

/-- Whether a node has a hint of this name. A hint of null is none. -/
def HasHint (f : Facets) (name : String) : Prop :=
  ∃ value, f.extensions.get? name = some value ∧ value ≠ .null

/-- The text of a hint. -/
def hintText (f : Facets) (name : String) : Option String :=
  (f.extensions.get? name).bind Hints.scalarText

variable {f : Facets} {name : String}

theorem hintText_eq_none_iff : f.hintText name = none ↔ ¬ f.HasHint name := by
  unfold hintText HasHint
  cases f.extensions.get? name with
  | none => simp
  | some value => simp [Hints.scalarText_eq_none_iff]

theorem isSome_hintText_iff : (f.hintText name).isSome = true ↔ f.HasHint name := by
  rw [Option.isSome_iff_ne_none, ne_eq, hintText_eq_none_iff, Classical.not_not]

instance : Decidable (f.HasHint name) :=
  decidable_of_iff ((f.hintText name).isSome = true) isSome_hintText_iff

end Facets

/-- The constraints without those that hints suppress. -/
def Constraints.unsuppressed (c : Constraints) (hints : Hints) : Constraints :=
  { c with
    minimum := if hints.suppresses .minimum then none else c.minimum
    maximum := if hints.suppresses .maximum then none else c.maximum
    minLength := if hints.suppresses .minLength then none else c.minLength
    maxLength := if hints.suppresses .maxLength then none else c.maxLength
    minItems := if hints.suppresses .minItems then none else c.minItems
    maxItems := if hints.suppresses .maxItems then none else c.maxItems
    pattern := if hints.suppresses .pattern then none else c.pattern }

/-! ## Topics -/

/-- What a rule is about. -/
inductive Topic where
  | null
  | presence
  | guard
  | type
  | format
  | spelling
  | choice
  | size
  | other
deriving DecidableEq, Repr

/-- The topic of a rule. -/
def Rule.topic : Rule → Topic
  | nullable => .null
  | present => .presence
  | required => .presence
  | requiredWith _ => .presence
  | object _ => .guard
  | type _ => .type
  | dateFormat _ => .format
  | mimes _ => .format
  | regex _ => .spelling
  | case _ => .choice
  | oneOf _ => .choice
  | max _ => .size
  | min _ => .size
  | named _ => .other

theorem Rule.topic_of_isPresence {r : Rule} (h : r.isPresence = true) : r.topic = .presence := by
  cases r <;> first | rfl | cases h

/-- The type of a kind, as the validator knows it. -/
def Kind.base : Kind → BaseType
  | string => .string
  | number => .numeric
  | integer => .integer
  | boolean => .boolean
  | array => .array
  | object => .array

/-- The guard stands directly before the type of integers, and nowhere else. -/
theorem Kind.rules_eq (kind : Kind) :
    kind.rules = (if kind = .integer then [.object RuleObject.integerGuard] else []) ++
      [.type kind.base] := by
  cases kind <;> rfl

/-- The kind whose type a list asks for. A file has no other type. -/
def Hints.typed (hints : Hints) (kind : Option Kind) : Option Kind :=
  if hints.mimes.isSome then none else kind

theorem typeRules_eq (kind : Option Kind) (hints : Hints) :
    typeRules kind hints =
      (if hints.typed kind = some .integer then [.object RuleObject.integerGuard] else []) ++
        ((hints.typed kind).map fun kind => Rule.type kind.base).toList ++
        (hints.dateFormat.map Rule.dateFormat).toList ++
        (hints.mimes.map fun _ => Rule.type .file).toList ++
        (hints.mimes.map Rule.mimes).toList := by
  have format : (hints.dateFormat.map Rule.dateFormat).toList =
      hints.dateFormat.toList.map Rule.dateFormat := Option.toList_map
  rw [typeRules, Hints.typed, format]
  cases hints.mimes with
  | some types => simp
  | none =>
    cases kind with
    | none => simp
    | some kind => simp [Kind.rules_eq]

/-! ## Parts -/

/-- What the parts of a rule list are made of. -/
structure RuleParts where
  nullable : Bool
  presence : Option Rule
  /-- The kind whose type is asked for. -/
  kind : Option Kind
  dateFormat : Option String
  /-- The file types, which come with the type of files. -/
  mimes : Option String
  hintPattern : Option String
  /-- The identifiers whose rules are spliced in. -/
  identifiers : List String
  constraints : Constraints

namespace RuleParts

variable (p : RuleParts)

/-- The parts in front of the spliced rules, each with its topic. -/
def leading : List (Topic × Option Rule) :=
  [(.null, if p.nullable then some .nullable else none),
    (.presence, p.presence),
    (.guard, if p.kind = some .integer then some (.object RuleObject.integerGuard) else none),
    (.type, p.kind.map fun kind => .type kind.base),
    (.format, p.dateFormat.map Rule.dateFormat),
    (.type, p.mimes.map fun _ => .type .file),
    (.format, p.mimes.map Rule.mimes),
    (.spelling, p.hintPattern.map Rule.regex)]

/-- The parts behind them. -/
def trailing : List (Topic × Option Rule) :=
  [(.choice, p.constraints.enumeration.map Enumeration.rule),
    (.size, p.constraints.maximum.map Rule.max),
    (.size, p.constraints.maxLength.map fun n : Nat => .max (.int n)),
    (.size, p.constraints.minimum.map Rule.min),
    (.size, p.constraints.minLength.map fun n : Nat => .min (.int n)),
    (.size, p.constraints.maxItems.map fun n : Nat => .max (.int n)),
    (.size, p.constraints.minItems.map fun n : Nat => .min (.int n)),
    (.spelling, p.constraints.pattern.map fun text => .regex ("/" ++ text ++ "/"))]

/-- The whole list. -/
def rules (resolve : Resolver) : List Rule :=
  p.leading.filterMap Prod.snd ++ p.identifiers.map resolve ++ p.trailing.filterMap Prod.snd

/-- The list without the spliced rules. -/
def own : List Rule := (p.leading ++ p.trailing).filterMap Prod.snd

/-- A rule of a list is found among the rules on its topic. -/
theorem mem_own_iff (r : Rule) : r ∈ p.own ↔ r ∈ p.own.filter fun s => s.topic = r.topic := by
  rw [List.mem_filter, decide_eq_true rfl, and_iff_left rfl]

section Own

variable {p} (asks : ∀ r ∈ p.presence, r.isPresence = true)

include asks

/-- Every part is about its topic. -/
theorem topic_of_mem :
    ∀ part ∈ p.leading ++ p.trailing, ∀ r ∈ part.2, r.topic = part.1 := by
  have asked : ∀ r ∈ p.presence, r.topic = .presence :=
    fun r hr => Rule.topic_of_isPresence (asks r hr)
  have only {c : Prop} [Decidable c] {rule : Rule} {topic : Topic} (its : rule.topic = topic) :
      ∀ r ∈ (if c then some rule else none), r.topic = topic := by
    intro r hr
    cases (Option.ite_none_right_eq_some.mp hr).2
    exact its
  have made {α : Type} {value : Option α} {make : α → Rule} {topic : Topic}
      (its : ∀ a, (make a).topic = topic) : ∀ r ∈ value.map make, r.topic = topic := by
    intro r hr
    obtain ⟨a, -, rfl⟩ := Option.map_eq_some_iff.mp hr
    exact its a
  have choice : ∀ e : Enumeration, e.rule.topic = .choice := by
    intro e
    cases e <;> rfl
  simp only [leading, trailing, List.cons_append, List.nil_append, List.forall_mem_cons]
  refine ⟨only rfl, asked, only rfl, ?_, ?_, ?_, ?_, ?_, made choice, ?_, ?_, ?_, ?_, ?_, ?_, ?_,
    nofun⟩
  all_goals exact made fun _ => rfl

/-- What a list says on a topic are the parts that are about it. -/
theorem filter_own (topic : Topic) :
    p.own.filter (fun r => r.topic = topic) =
      ((p.leading ++ p.trailing).filter fun part => part.1 = topic).filterMap Prod.snd := by
  have about := topic_of_mem asks
  unfold own
  generalize p.leading ++ p.trailing = parts at about
  induction parts with
  | nil => rfl
  | cons part rest ih =>
    obtain ⟨here, others⟩ := List.forall_mem_cons.mp about
    specialize ih others
    obtain ⟨its, rule⟩ := part
    cases rule with
    | none => by_cases same : its = topic <;> simp [same, ih]
    | some r =>
      have own : r.topic = its := here r rfl
      by_cases same : its = topic <;> simp [own, same, ih]

theorem filter_null :
    p.own.filter (fun r => r.topic = .null) = if p.nullable then [.nullable] else [] := by
  rw [filter_own asks]
  cases h : p.nullable <;> simp [leading, trailing, h]

theorem filter_presence : p.own.filter (fun r => r.topic = .presence) = p.presence.toList := by
  rw [filter_own asks]
  cases h : p.presence <;> simp [leading, trailing, h]

theorem filter_guard :
    p.own.filter (fun r => r.topic = .guard) =
      if p.kind = some .integer then [.object RuleObject.integerGuard] else [] := by
  rw [filter_own asks]
  by_cases h : p.kind = some .integer <;> simp [leading, trailing, h]

theorem filter_type :
    p.own.filter (fun r => r.topic = .type) =
      (p.kind.map fun kind => Rule.type kind.base).toList ++
        (p.mimes.map fun _ => Rule.type .file).toList := by
  rw [filter_own asks]
  cases h : p.kind <;> cases h' : p.mimes <;> simp [leading, trailing, h, h']

theorem filter_spelling :
    p.own.filter (fun r => r.topic = .spelling) =
      (p.hintPattern.map Rule.regex).toList ++
        (p.constraints.pattern.map fun text => Rule.regex ("/" ++ text ++ "/")).toList := by
  rw [filter_own asks]
  cases h : p.hintPattern <;> cases h' : p.constraints.pattern <;>
    simp [leading, trailing, h, h']

theorem nullable_mem_own : .nullable ∈ p.own ↔ p.nullable = true := by
  rw [mem_own_iff]
  show _ ∈ p.own.filter (fun r => r.topic = .null) ↔ _
  rw [filter_null asks]
  cases p.nullable <;> simp

theorem presence_mem_own {r : Rule} (about : r.topic = .presence) :
    r ∈ p.own ↔ p.presence = some r := by
  rw [mem_own_iff, about, filter_presence asks, Option.mem_toList]

theorem object_mem_own {check : RuleObject} :
    .object check ∈ p.own ↔ p.kind = some .integer ∧ check = RuleObject.integerGuard := by
  rw [mem_own_iff]
  show _ ∈ p.own.filter (fun r => r.topic = .guard) ↔ _
  rw [filter_guard asks]
  by_cases h : p.kind = some .integer <;> simp [h]

theorem type_mem_own {base : BaseType} :
    .type base ∈ p.own ↔
      (∃ kind, p.kind = some kind ∧ kind.base = base) ∨ p.mimes ≠ none ∧ base = .file := by
  rw [mem_own_iff]
  show _ ∈ p.own.filter (fun r => r.topic = .type) ↔ _
  rw [filter_type asks]
  cases p.kind <;> cases p.mimes <;> simp [eq_comm]

/-- Of two spellings of a value one has to give way. -/
theorem length_filter_spelling (one : p.hintPattern ≠ none → p.constraints.pattern = none) :
    (p.own.filter fun r => r.topic = .spelling).length ≤ 1 := by
  rw [filter_spelling asks]
  cases hint : p.hintPattern with
  | none => cases p.constraints.pattern <;> simp
  | some operand => simp [one (hint ▸ Option.some_ne_none operand)]

/-- Of two types one has to give way. -/
theorem length_filter_type (one : ∀ kind, p.kind = some kind → p.mimes = none) :
    (p.own.filter fun r => r.topic = .type).length ≤ 1 := by
  rw [filter_type asks]
  cases typed : p.kind with
  | none => cases p.mimes <;> simp
  | some kind => simp [one kind typed]

end Own

/-- What the rules of a node never say, the spliced ones aside. There is at most one regular
expression and at most one type: that of files exactly for a file, whose value has no guard,
else that of the kind, which is the type of arrays for arrays and objects, and none for
a node without a kind. What may be null is not required, and present only as an object. -/
structure Consistent (f : Facets) (own : List Rule) : Prop where
  spelling : (own.filter fun r => r.topic = .spelling).length ≤ 1
  type : (own.filter fun r => r.topic = .type).length ≤ 1
  file : .type .file ∈ own ↔ f.HasHint "mimes"
  unguarded : f.HasHint "mimes" → ∀ check, .object check ∉ own
  container : f.kind = some .array ∨ f.kind = some .object → ¬ f.HasHint "mimes" →
    .type .array ∈ own
  untyped : (∀ base, .type base ∉ own) ↔ f.kind = none ∧ ¬ f.HasHint "mimes"
  required : .nullable ∈ own → .required ∉ own ∧ ∀ key, .requiredWith key ∉ own
  present : .nullable ∈ own → .present ∈ own → f.kind = some .object

end RuleParts

/-! ## The parts of a node -/

/-- A presence rule of a node that may be null says that an object is present. -/
theorem present_of_isNullable {f : Facets} {name : String} {container : Path}
    {required : NameSet} {r : Rule} (asks : presenceRule f name container required = some r)
    (null : f.isNullable = true) : r = .present ∧ f.kind = some .object := by
  rw [presenceRule, if_pos null] at asks
  split at asks
  · cases asks
  · split at asks
    · next object =>
      cases asks
      exact ⟨rfl, object⟩
    · cases asks

namespace Facets

/-- The parts of the rule list of a node with a presence rule. -/
def parts (f : Facets) (presence : Option Rule) : RuleParts where
  nullable := f.isNullable
  presence := presence
  kind := (Hints.ofExtensions f.extensions).typed f.kind
  dateFormat := f.hintText "date_format"
  mimes := f.hintText "mimes"
  hintPattern := f.hintText "pattern"
  identifiers := (Hints.ofExtensions f.extensions).validation
  constraints := f.constraints.unsuppressed (Hints.ofExtensions f.extensions)

variable (f : Facets) (presence : Option Rule)

/-- A part is written where it stands. -/
theorem filterMap_snd_cons (topic : Topic) (part : Option Rule)
    (rest : List (Topic × Option Rule)) :
    ((topic, part) :: rest).filterMap Prod.snd = part.toList ++ rest.filterMap Prod.snd := by
  cases part <;> rfl

theorem constraintRules_eq_trailing :
    (f.constraints.enumeration.map Enumeration.rule).toList
        ++ f.constraints.rules (Hints.ofExtensions f.extensions) =
      (f.parts presence).trailing.filterMap Prod.snd := by
  have allowed {α : Type} (make : α → Rule) (suppressed : Bool) (value : Option α) :
      (if suppressed then [] else (value.map make).toList) =
        ((if suppressed then none else value).map make).toList := by
    cases suppressed <;> rfl
  simp only [Constraints.rules, RuleParts.trailing, parts, Constraints.unsuppressed,
    filterMap_snd_cons, List.filterMap_nil, allowed, List.append_assoc, List.append_nil]

theorem rules_eq_rules_parts (resolve : Resolver) :
    f.rules resolve presence = (f.parts presence).rules resolve := by
  have spelling : ((Hints.ofExtensions f.extensions).pattern.map Rule.regex).toList =
      (Hints.ofExtensions f.extensions).pattern.toList.map Rule.regex := Option.toList_map
  rw [RuleParts.rules, ← constraintRules_eq_trailing, Facets.rules, typeRules_eq, ← spelling]
  have only (c : Prop) [Decidable c] (r : Rule) :
      (if c then some r else none).toList = if c then [r] else [] := by
    split <;> rfl
  simp only [RuleParts.leading, filterMap_snd_cons, List.filterMap_nil, only,
    List.append_assoc, List.append_nil]
  rfl

/-- Where a hint spells a value the schema does not. -/
theorem pattern_parts (spelled : (f.parts presence).hintPattern ≠ none) :
    (f.parts presence).constraints.pattern = none := by
  have hint : (Hints.ofExtensions f.extensions).pattern.isSome = true :=
    Option.isSome_iff_ne_none.mpr spelled
  have suppressed : (Hints.ofExtensions f.extensions).suppresses .pattern = true := by
    rw [Hints.suppresses, hint, Bool.or_true]
  exact if_pos suppressed

/-- A file has no other type. -/
theorem kind_parts_eq_some_iff {kind : Kind} :
    (f.parts presence).kind = some kind ↔ f.kind = some kind ∧ ¬ f.HasHint "mimes" := by
  have file : (Hints.ofExtensions f.extensions).mimes = f.hintText "mimes" := rfl
  show (Hints.ofExtensions f.extensions).typed f.kind = some kind ↔ _
  rw [Hints.typed, file, ← hintText_eq_none_iff]
  cases f.hintText "mimes" <;> simp

theorem mimes_parts_eq_none_iff : (f.parts presence).mimes = none ↔ ¬ f.HasHint "mimes" :=
  hintText_eq_none_iff

section Own

variable {f presence} (asks : ∀ r ∈ presence, r.isPresence = true)

include asks

theorem type_mem_own_parts (base : BaseType) :
    .type base ∈ (f.parts presence).own ↔
      (∃ kind, (f.kind = some kind ∧ ¬ f.HasHint "mimes") ∧ kind.base = base) ∨
        f.HasHint "mimes" ∧ base = .file := by
  rw [RuleParts.type_mem_own (p := f.parts presence) asks, ne_eq, mimes_parts_eq_none_iff,
    Classical.not_not]
  simp only [kind_parts_eq_some_iff]

/-- The parts of one node do not contradict each other. -/
theorem consistent_parts
    (null : f.isNullable = true → ∀ r ∈ presence, r = .present ∧ f.kind = some .object) :
    RuleParts.Consistent f (f.parts presence).own := by
  have onType := type_mem_own_parts (f := f) asks
  replace asks : ∀ r ∈ (f.parts presence).presence, r.isPresence = true := asks
  -- a presence rule beside a null is the presence of an object
  have beside {r : Rule} (about : r.topic = .presence)
      (nullable : .nullable ∈ (f.parts presence).own) (asked : r ∈ (f.parts presence).own) :
      r = .present ∧ f.kind = some .object :=
    null ((RuleParts.nullable_mem_own asks).mp nullable) r
      ((RuleParts.presence_mem_own asks about).mp asked)
  constructor
  case spelling => exact RuleParts.length_filter_spelling asks (pattern_parts f presence)
  case type =>
    refine RuleParts.length_filter_type asks fun kind typed => ?_
    exact (mimes_parts_eq_none_iff f presence).mpr ((kind_parts_eq_some_iff f presence).mp typed).2
  case file =>
    rw [onType]
    constructor
    · rintro (⟨kind, -, base⟩ | ⟨hint, -⟩)
      · cases kind <;> cases base
      · exact hint
    · exact fun hint => .inr ⟨hint, rfl⟩
  case unguarded =>
    intro hint check guarded
    obtain ⟨integer, -⟩ := (RuleParts.object_mem_own asks).mp guarded
    exact ((kind_parts_eq_some_iff f presence).mp integer).2 hint
  case container =>
    rintro (array | object) bare
    · exact (onType _).mpr (.inl ⟨.array, ⟨array, bare⟩, rfl⟩)
    · exact (onType _).mpr (.inl ⟨.object, ⟨object, bare⟩, rfl⟩)
  case untyped =>
    constructor
    · intro silent
      have bare : ¬ f.HasHint "mimes" := fun hint => silent _ ((onType _).mpr (.inr ⟨hint, rfl⟩))
      refine ⟨Option.eq_none_iff_forall_ne_some.mpr fun kind typed => ?_, bare⟩
      exact silent _ ((onType _).mpr (.inl ⟨kind, ⟨typed, bare⟩, rfl⟩))
    · rintro ⟨untyped, bare⟩ base typed
      rcases (onType base).mp typed with ⟨kind, ⟨typed, -⟩, -⟩ | ⟨hint, -⟩
      · rw [untyped] at typed
        cases typed
      · exact bare hint
  case required =>
    intro nullable
    constructor
    · intro asked
      cases (beside rfl nullable asked).1
    · intro key asked
      cases (beside rfl nullable asked).1
  case present => exact fun nullable asked => (beside rfl nullable asked).2

end Own

end Facets

/-! ## The lists of a rule set -/

namespace Position

/-- What is asked of a position. -/
def asked (p : Position) : Option Rule :=
  p.requiredThere.bind (presenceRule p.facets p.segment p.container)

/-- The parts of the rule list of a position. -/
def parts (p : Position) : RuleParts := p.facets.parts p.asked

theorem rules_eq_rules_parts (p : Position) (resolve : Resolver) :
    p.rules resolve = p.parts.rules resolve :=
  p.facets.rules_eq_rules_parts p.asked resolve

theorem isPresence_of_mem_asked {p : Position} : ∀ r ∈ p.asked, r.isPresence = true := by
  intro r hr
  obtain ⟨required, -, asks⟩ := Option.bind_eq_some_iff.mp hr
  exact isPresence_of_presenceRule asks

theorem consistent_parts (p : Position) : RuleParts.Consistent p.facets p.parts.own := by
  refine Facets.consistent_parts isPresence_of_mem_asked fun null r hr => ?_
  obtain ⟨required, -, asks⟩ := Option.bind_eq_some_iff.mp hr
  exact present_of_isNullable asks null

end Position

namespace Schema

open Site

variable {s : Schema} {container : Path} {required : NameSet} {resolve : Resolver}
  {set : RuleSet}

/-- Every list of a rule set is that of the first site with its key. It is put together
from the parts of this site in their order, its presence part asks for a presence, and
the spliced rules aside nothing in it contradicts anything else. -/
theorem rules_in_order (compiled : s.rules resolve container required = .ok set) :
    ∀ e ∈ set.entries, ∃ v,
      (top container required s).preorder.find? (fun v => v.key = e.1) = some v ∧
        e.2 = v.position.parts.rules resolve ∧
        (∀ r ∈ v.position.parts.presence, r.isPresence = true) ∧
        RuleParts.Consistent v.node.facets v.position.parts.own := by
  intro e filed
  obtain ⟨v, first, rules⟩ := exists_site_of_mem_entries compiled filed
  refine ⟨v, first, ?_, Position.isPresence_of_mem_asked, v.position.consistent_parts⟩
  rw [rules]
  exact v.position.rules_eq_rules_parts resolve

/-- A scan: an integer by its kind, a file by a hint, and spelled twice. -/
def scan : Schema :=
  node { kind := some .integer, key := some "scan", nullable := some true,
         constraints := { maxItems := some 3, pattern := some "[0-9]+" },
         extensions := Table.ofFirst [("mimes", .str "pdf"), ("pattern", .str "/^S/")] } [] none

/-- What is filed for a scan has no guard and one regular expression. -/
theorem scan_in_order :
    ∃ set, scan.rules Registry.builtin.resolve Path.root (NameSet.ofList ["scan"]) = .ok set ∧
      set.keys = ["scan"] ∧
      ∀ e ∈ set.entries, ∃ parts : RuleParts, e.2 = parts.rules Registry.builtin.resolve ∧
        (∀ check, .object check ∉ parts.own) ∧
        (parts.own.filter fun r => r.topic = .spelling).length ≤ 1 := by
  obtain ⟨set, compiled, keys⟩ : ∃ set, scan.rules Registry.builtin.resolve Path.root
      (NameSet.ofList ["scan"]) = .ok set ∧ set.keys = ["scan"] := ⟨_, rfl, rfl⟩
  refine ⟨set, compiled, keys, fun e filed => ?_⟩
  obtain ⟨v, first, rules, -, consistent⟩ := rules_in_order compiled e filed
  have node : v.node = scan := by
    have there := List.mem_of_find?_eq_some first
    rw [preorder_eq] at there
    exact congrArg Site.node (List.mem_singleton.mp there)
  refine ⟨v.position.parts, rules, consistent.unguarded ?_, consistent.spelling⟩
  rw [node]
  exact ⟨.str "pdf", rfl, nofun⟩

end Schema

end PayloadRules
