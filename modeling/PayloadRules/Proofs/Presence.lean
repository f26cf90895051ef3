import PayloadRules.Proofs.Site.Tables
import PayloadRules.Rule.Registry

/-!
# Who asks for a field

A node is required by the one node that contains it, and by nothing further up.
`Site.presence` says what is asked of a site from the names its container lists,
without looking at the compiler, and exactly this is found in the rule list that is
filed for the site.

A rule list also takes over the rules that the `validation` hints of its node stand
for. A resolver could make a presence rule of such a hint; a registry never does.
-/

namespace PayloadRules

/-- Whether a rule says under which circumstances a field must be there. -/
def Rule.isPresence : Rule → Bool
  | present => true
  | required => true
  | requiredWith _ => true
  | _ => false

/-- Whether a rule is about the value of a field, and not about whether there is one. -/
def Rule.isOnValue : Rule → Bool
  | nullable => false
  | r => !r.isPresence

theorem Rule.isPresence_of_isOnValue {r : Rule} (h : r.isOnValue = true) :
    r.isPresence = false := by
  cases r <;> first | rfl | cases h

/-! ## The presence rules of one node -/

/-- The rules that the `validation` hints of a node stand for. -/
def Facets.spliced (f : Facets) (resolve : Resolver) : List Rule :=
  (Hints.ofExtensions f.extensions).validation.map resolve

theorem isPresence_of_presenceRule {f : Facets} {name : String} {container : Path}
    {required : NameSet} {r : Rule} (h : presenceRule f name container required = some r) :
    r.isPresence = true := by
  rw [presenceRule] at h
  split at h
  · cases h
  · split at h
    · cases h
      rfl
    · split at h
      · cases h
      · split at h
        · cases h
          rfl
        · split at h <;> (cases h; rfl)

theorem isOnValue_of_mem_typeRules {kind : Option Kind} {hints : Hints} {r : Rule}
    (h : r ∈ typeRules kind hints) : r.isOnValue = true := by
  have format : ∀ r ∈ hints.dateFormat.toList.map Rule.dateFormat, r.isOnValue = true := by
    intro r hr
    obtain ⟨layout, -, rfl⟩ := List.mem_map.mp hr
    rfl
  have types : ∀ r ∈ (kind.map Kind.rules).getD [], r.isOnValue = true := by
    cases kind with
    | none => exact fun r hr => (List.not_mem_nil hr).elim
    | some kind => cases kind <;> decide
  rw [typeRules] at h
  cases file : hints.mimes with
  | none =>
    rw [file] at h
    exact (List.mem_append.mp h).elim (types r) (format r)
  | some mimes =>
    rw [file] at h
    rcases List.mem_append.mp h with h | h
    · exact format r h
    · rcases List.mem_cons.mp h with rfl | h
      · rfl
      · cases List.mem_singleton.mp h
        rfl

theorem mem_of_mem_allowed {hints : Hints} {bound : Bound} {rule : Option Rule} {r : Rule}
    (h : r ∈ if hints.suppresses bound then [] else rule.toList) : rule = some r := by
  split at h
  · cases h
  · exact Option.mem_toList.mp h

theorem isOnValue_of_mem_constraintRules {c : Constraints} {hints : Hints} {r : Rule}
    (h : r ∈ c.rules hints) : r.isOnValue = true := by
  have bounds {α : Type} {bound : Bound} {value : Option α} {make : α → Rule}
      (h : r ∈ if hints.suppresses bound then [] else (value.map make).toList)
      (onValue : ∀ a, (make a).isOnValue = true) : r.isOnValue = true := by
    obtain ⟨a, -, rfl⟩ := Option.map_eq_some_iff.mp (mem_of_mem_allowed h)
    exact onValue a
  simp only [Constraints.rules, List.mem_append, or_assoc] at h
  rcases h with h | h | h | h | h | h | h
  all_goals exact bounds h fun _ => rfl

namespace Facets

/-- The rules of a node for the shape of its value: its type and its format. -/
def shapeRules (f : Facets) : List Rule :=
  let hints := Hints.ofExtensions f.extensions
  typeRules f.kind hints ++ hints.pattern.toList.map Rule.regex

/-- The rules of a node for the range of its value: a choice of values and bounds. -/
def rangeRules (f : Facets) : List Rule :=
  (f.constraints.enumeration.map Enumeration.rule).toList
    ++ f.constraints.rules (Hints.ofExtensions f.extensions)

variable (f : Facets) (resolve : Resolver)

/-- Of the rules of a node, only the first two parts and the hints are not on its value. -/
theorem rules_eq_parts (presence : Option Rule) :
    f.rules resolve presence = (if f.isNullable then [.nullable] else []) ++ presence.toList
      ++ f.shapeRules ++ f.spliced resolve ++ f.rangeRules := by
  simp only [rules, shapeRules, rangeRules, spliced, List.append_assoc]

theorem isOnValue_of_mem_shapeRules {r : Rule} (h : r ∈ f.shapeRules) : r.isOnValue = true := by
  rcases List.mem_append.mp h with h | h
  · exact isOnValue_of_mem_typeRules h
  · obtain ⟨operand, -, rfl⟩ := List.mem_map.mp h
    rfl

theorem isOnValue_of_mem_rangeRules {r : Rule} (h : r ∈ f.rangeRules) : r.isOnValue = true := by
  rcases List.mem_append.mp h with h | h
  · obtain ⟨e, -, rfl⟩ := Option.map_eq_some_iff.mp (Option.mem_toList.mp h)
    cases e <;> rfl
  · exact isOnValue_of_mem_constraintRules h

/-- The presence rules of a node: the one that is handed in, and those among its
hints. -/
theorem filter_rules {presence : Option Rule} (asks : ∀ r ∈ presence, r.isPresence = true) :
    (f.rules resolve presence).filter Rule.isPresence =
      presence.toList ++ (f.spliced resolve).filter Rule.isPresence := by
  have drop {rules : List Rule} (silent : ∀ r ∈ rules, r.isPresence = false) :
      rules.filter Rule.isPresence = [] :=
    List.filter_eq_nil_iff.mpr fun r hr => by rw [silent r hr]; exact Bool.false_ne_true
  have nullable : ∀ r ∈ (if f.isNullable then [Rule.nullable] else []), r.isPresence = false := by
    split <;> decide
  have asked : presence.toList.filter Rule.isPresence = presence.toList :=
    List.filter_eq_self.mpr fun r hr => asks r (Option.mem_toList.mp hr)
  have shape (r : Rule) (hr : r ∈ f.shapeRules) : r.isPresence = false :=
    Rule.isPresence_of_isOnValue (f.isOnValue_of_mem_shapeRules hr)
  have range (r : Rule) (hr : r ∈ f.rangeRules) : r.isPresence = false :=
    Rule.isPresence_of_isOnValue (f.isOnValue_of_mem_rangeRules hr)
  simp only [rules_eq_parts, List.filter_append, drop nullable, drop shape, drop range, asked,
    List.nil_append, List.append_nil]

end Facets

theorem Registry.isPresence_resolve (registry : Registry) (id : String) :
    (registry.resolve id).isPresence = false := by
  rw [resolve]
  cases registry.find? id <;> rfl

theorem Registry.isPresence_of_mem_spliced (registry : Registry) (f : Facets) :
    ∀ r ∈ f.spliced registry.resolve, r.isPresence = false := by
  intro r hr
  obtain ⟨id, -, rfl⟩ := List.mem_map.mp hr
  exact registry.isPresence_resolve id

/-! ## What is asked of a site -/

namespace Site

/-- What is asked of a site. A wildcard, or a node whose name its container does not
list, may be absent. A required object must be present, and any other required
node is not asked for when it is nullable. Below the top a node is required where
its container is present; at the top an array must be present and a scalar
required. -/
def presence (v : Site) : Option Rule :=
  if v.isItem ∨ v.segment ∉ v.listed then none
  else if v.node.kind = some .object then some .present
  else if v.node.isNullable then none
  else if ¬ v.ancestors.isEmpty then some (.requiredWith (Path.join v.path.segments.dropLast))
  else if v.node.kind = some .array then some .present
  else some .required

theorem segments_container (v : Site) : v.container.segments = v.path.segments.dropLast := by
  rw [path_eq_child, Path.child, List.dropLast_concat]

/-- The compiler asks for a named site what the site asks for. -/
theorem presenceRule_eq_presence {v : Site} (named : v.isItem = false)
    (front : v.front = Path.root) :
    presenceRule v.node.facets v.segment v.container v.listed = v.presence := by
  have key : v.container.key = Path.join v.path.segments.dropLast := by
    rw [Path.key, segments_container]
  have above : v.container.isRoot = v.ancestors.isEmpty := by
    cases v with
    | top container required s =>
      cases (front : container = Path.root)
      rfl
    | property parent s => exact isRoot_path parent
    | field array items s => exact Path.isRoot_child _ _
    | anyItem array s => cases named
  rw [presenceRule, presence, named, above, key]
  simp only [Bool.false_eq_true, false_or]
  rfl

theorem asked_eq_presence {v : Site} (front : v.front = Path.root) :
    (v.position.requiredThere.bind
      (presenceRule v.position.facets v.position.segment v.position.container)) = v.presence := by
  cases item : v.isItem with
  | true =>
    rw [position, item, presence, item]
    rfl
  | false =>
    rw [← presenceRule_eq_presence item front, position, item]
    rfl

theorem isPresence_of_mem_presence {v : Site} (front : v.front = Path.root) :
    ∀ r ∈ v.presence, r.isPresence = true := by
  intro r hr
  rw [← asked_eq_presence front] at hr
  obtain ⟨required, -, asks⟩ := Option.bind_eq_some_iff.mp hr
  exact isPresence_of_presenceRule asks

theorem snd_ruleEntry {v : Site} (front : v.front = Path.root) (resolve : Resolver) :
    (v.ruleEntry resolve).2 = v.node.facets.rules resolve v.presence := by
  rw [← asked_eq_presence front]
  rfl

/-- The presence rules in the entry of a site. -/
theorem filter_ruleEntry {v : Site} (front : v.front = Path.root) (resolve : Resolver) :
    (v.ruleEntry resolve).2.filter Rule.isPresence =
      v.presence.toList ++ (v.node.facets.spliced resolve).filter Rule.isPresence := by
  rw [snd_ruleEntry front]
  exact v.node.facets.filter_rules resolve (isPresence_of_mem_presence front)

/-- What is asked of a site stands in its entry. -/
theorem mem_ruleEntry_of_presence {v : Site} {r : Rule} (front : v.front = Path.root)
    (resolve : Resolver) (asks : v.presence = some r) : r ∈ (v.ruleEntry resolve).2 := by
  have found : r ∈ (v.ruleEntry resolve).2.filter Rule.isPresence := by
    rw [filter_ruleEntry front, asks]
    exact List.mem_append_left _ (List.mem_singleton_self r)
  exact List.mem_of_mem_filter found

/-- A presence rule in the entry of a site is asked for by the site or comes from a hint. -/
theorem presence_or_hint_of_mem_ruleEntry {v : Site} {resolve : Resolver} {r : Rule}
    (front : v.front = Path.root) (there : r ∈ (v.ruleEntry resolve).2)
    (asks : r.isPresence = true) :
    v.presence = some r ∨ r ∈ v.node.facets.spliced resolve := by
  have kept := List.mem_filter.mpr ⟨there, asks⟩
  rw [filter_ruleEntry front, List.mem_append, Option.mem_toList] at kept
  exact kept.imp_right List.mem_of_mem_filter

/-- What contains the fields of an array's items has the key of the array and one
wildcard segment more. -/
theorem join_dropLast_field (array : Site) (items s : Schema) :
    Path.join (field array items s).path.segments.dropLast = array.key ++ ".*" := by
  rw [← segments_container]
  exact Path.key_wildcard array.isRoot_path

end Site

/-! ## What is asked in a rule set -/

namespace Schema

open Site

variable {s : Schema} {required : NameSet} {resolve : Resolver} {set : RuleSet}

/-- In a tree with plain names every site has its entry in the rule set, and no other
entry is there. What an entry says about presence is what the site asks for by its
immediate container alone; only a resolver that makes presence rules of hints adds
to it. -/
theorem presence_of_rules (plain : s.PlainNames)
    (compiled : s.rules resolve Path.root required = .ok set) :
    set.keys = (top Path.root required s).preorder.map key ∧
      ∀ v ∈ (top Path.root required s).preorder, ∃ rules, set.get? v.key = some rules ∧
        rules.filter Rule.isPresence =
          v.presence.toList ++ (v.node.facets.spliced resolve).filter Rule.isPresence ∧
        (∀ registry : Registry, resolve = registry.resolve →
          rules.filter Rule.isPresence = v.presence.toList) ∧
        ∀ array items p, v = field array items p →
          Path.join v.path.segments.dropLast = array.key ++ ".*" := by
  refine ⟨keys_of_rules plain compiled, fun v hv => ?_⟩
  have front : v.front = Path.root := front_of_mem_preorder hv
  have filed : v.ruleEntry resolve ∈ set.entries := by
    rw [entries_of_rules plain compiled]
    exact List.mem_map_of_mem hv
  refine ⟨(v.ruleEntry resolve).2, ?_, filter_ruleEntry front resolve, ?_, ?_⟩
  · rw [← fst_ruleEntry resolve v]
    exact Table.get?_of_mem_entries filed
  · rintro registry rfl
    have spliced : (v.node.facets.spliced registry.resolve).filter Rule.isPresence = [] := by
      refine List.filter_eq_nil_iff.mpr fun r hr => ?_
      rw [registry.isPresence_of_mem_spliced v.node.facets r hr]
      exact Bool.false_ne_true
    rw [filter_ruleEntry front, spliced, List.append_nil]
  · rintro array items p rfl
    exact join_dropLast_field array items p

/-- A required field of the items of a required array is asked for with the items. -/
theorem presence_of_orderLines :
    ∃ set, orderLines.rules Registry.builtin.resolve Path.root (NameSet.ofList ["lines"]) =
        .ok set ∧
      ∃ rules, set.get? "lines.*.code" = some rules ∧
        rules.filter Rule.isPresence = [.requiredWith "lines.*"] := by
  obtain ⟨set, compiled⟩ : ∃ set, orderLines.rules Registry.builtin.resolve Path.root
      (NameSet.ofList ["lines"]) = .ok set := ⟨_, rfl⟩
  obtain ⟨-, entries⟩ := presence_of_rules plainNames_orderLines compiled
  have code := mem_preorder_of_mem_children
    (mem_preorder_self (top Path.root (NameSet.ofList ["lines"]) orderLines))
    List.mem_cons_self
  obtain ⟨rules, found, -, asked, -⟩ := entries _ code
  exact ⟨set, compiled, rules, found, asked Registry.builtin rfl⟩

end Schema

end PayloadRules
