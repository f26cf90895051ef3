import PayloadRules.Proofs.RuleOrder
import PayloadRules.Proofs.Unnoticed

/-!
# What hints suppress

A date format covers the bounds of value, length and spelling, a hint for the spelling
covers the pattern. What is covered is not looked at: a tree compiles to the same rules, or
to the same error, as the tree with all covered bounds taken out (`Schema.rules_unsuppressed`),
and so trees that differ in covered bounds only cannot be told apart.

What is not covered is honoured. It gives one rule of its own, at its own place of the
list, and nothing else in the list depends on it (`Position.rules_around_bound`). How many
items there are and which values are allowed is never covered, and a hint of null covers
nothing.
-/

namespace PayloadRules

/-! ## Bounds -/

/-- The order in which bounds give their rules. -/
def Bound.inOrder : List Bound :=
  [.maximum, .maxLength, .minimum, .minLength, .maxItems, .minItems, .pattern]

theorem Bound.mem_inOrder (b : Bound) : b ∈ inOrder := by cases b <;> decide

/-- Every bound has its one place in the order. -/
theorem Bound.exists_around (b : Bound) :
    ∃ before after, inOrder = before ++ b :: after ∧ b ∉ before ∧ b ∉ after := by
  obtain ⟨before, after, order⟩ := List.append_of_mem b.mem_inOrder
  have once : (before ++ b :: after).Nodup := order ▸ (by decide : inOrder.Nodup)
  rw [List.nodup_append, List.nodup_cons] at once
  obtain ⟨-, ⟨after_free, -⟩, apart⟩ := once
  exact ⟨before, after, order, fun there => apart b there b List.mem_cons_self rfl, after_free⟩

namespace Constraints

/-- The rule of a bound that is set. It carries the value; a pattern stands between slashes. -/
def rule? (c : Constraints) : Bound → Option Rule
  | .minimum => c.minimum.map Rule.min
  | .maximum => c.maximum.map Rule.max
  | .minLength => c.minLength.map fun n : Nat => .min (.int n)
  | .maxLength => c.maxLength.map fun n : Nat => .max (.int n)
  | .minItems => c.minItems.map fun n : Nat => .min (.int n)
  | .maxItems => c.maxItems.map fun n : Nat => .max (.int n)
  | .pattern => c.pattern.map fun text => .regex ("/" ++ text ++ "/")

/-- The constraints without a bound. -/
def unset (c : Constraints) : Bound → Constraints
  | .minimum => { c with minimum := none }
  | .maximum => { c with maximum := none }
  | .minLength => { c with minLength := none }
  | .maxLength => { c with maxLength := none }
  | .minItems => { c with minItems := none }
  | .maxItems => { c with maxItems := none }
  | .pattern => { c with pattern := none }

variable {c d : Constraints} {b other : Bound} {hints : Hints}

theorem rule?_unset_of_ne (ne : other ≠ b) : (c.unset b).rule? other = c.rule? other := by
  cases b <;> cases other <;> first | rfl | exact (ne rfl).elim

theorem enumeration_unset : (c.unset b).enumeration = c.enumeration := by
  cases b <;> rfl

/-- The rules of the bounds, one bound after the other. -/
theorem rules_eq_flatMap (c : Constraints) (hints : Hints) :
    c.rules hints =
      Bound.inOrder.flatMap fun b => if hints.suppresses b then [] else (c.rule? b).toList := by
  simp only [rules, Bound.inOrder, rule?, List.flatMap_cons, List.flatMap_nil, List.append_nil,
    List.append_assoc]

/-- A bound that is not suppressed gives its rule between rules that do not depend on it. -/
theorem exists_rules_around (c : Constraints) (honoured : hints.suppresses b = false) :
    ∃ before after, ∀ d : Constraints, d.unset b = c.unset b →
      d.rules hints = before ++ (d.rule? b).toList ++ after := by
  obtain ⟨earlier, later, order, free, free'⟩ := b.exists_around
  refine ⟨earlier.flatMap fun b => if hints.suppresses b then [] else (c.rule? b).toList,
    later.flatMap fun b => if hints.suppresses b then [] else (c.rule? b).toList, ?_⟩
  intro d rest
  have others (x : Bound) (ne : x ≠ b) : d.rule? x = c.rule? x := by
    rw [← rule?_unset_of_ne ne, rest, rule?_unset_of_ne ne]
  have same (bounds : List Bound) (free : b ∉ bounds) :
      (bounds.flatMap fun b => if hints.suppresses b then [] else (d.rule? b).toList) =
        bounds.flatMap fun b => if hints.suppresses b then [] else (c.rule? b).toList :=
    List.flatMap_congr fun x hx => by rw [others x fun eq => free (eq ▸ hx)]
  rw [rules_eq_flatMap, order, List.flatMap_append, List.flatMap_cons, same earlier free,
    same later free', honoured, List.append_assoc]
  rfl

/-- What is suppressed can be taken out only once. -/
theorem unsuppressed_unsuppressed (c : Constraints) (hints : Hints) :
    (c.unsuppressed hints).unsuppressed hints = c.unsuppressed hints := by
  have twice {α : Type} (suppressed : Bool) (value : Option α) :
      (if suppressed then none else if suppressed then none else value) =
        if suppressed then none else value := by
    cases suppressed <;> rfl
  simp only [unsuppressed, twice]

end Constraints

namespace Facets

/-- Whether a hint of the node speaks for a bound. -/
def Covers (f : Facets) : Bound → Prop
  | .minimum => f.HasHint "date_format"
  | .maximum => f.HasHint "date_format"
  | .minLength => f.HasHint "date_format"
  | .maxLength => f.HasHint "date_format"
  | .minItems => False
  | .maxItems => False
  | .pattern => f.HasHint "date_format" ∨ f.HasHint "pattern"

variable {f : Facets} {b : Bound} {presence : Option Rule} {resolve : Resolver}

/-- The compiler suppresses what hints speak for. -/
theorem suppresses_iff_covers :
    (Hints.ofExtensions f.extensions).suppresses b = true ↔ f.Covers b := by
  cases b with
  | minItems => exact ⟨nofun, False.elim⟩
  | maxItems => exact ⟨nofun, False.elim⟩
  | pattern =>
    refine Bool.or_eq_true_iff.trans (or_congr ?_ ?_)
    · exact isSome_hintText_iff
    · exact isSome_hintText_iff
  | _ => exact isSome_hintText_iff

/-- The facets with other constraints. -/
def constrain (change : Constraints → Constraints) (f : Facets) : Facets :=
  { f with constraints := change f.constraints }

/-! ## What is covered -/

/-- The facets without the bounds that hints speak for. -/
def unsuppressed (f : Facets) : Facets :=
  f.constrain fun c => c.unsuppressed (Hints.ofExtensions f.extensions)

theorem rules_unsuppressed (f : Facets) (resolve : Resolver) (presence : Option Rule) :
    f.unsuppressed.rules resolve presence = f.rules resolve presence := by
  have parts : f.unsuppressed.parts presence = f.parts presence := by
    have constraints := f.constraints.unsuppressed_unsuppressed (Hints.ofExtensions f.extensions)
    exact congrArg (fun c => { f.parts presence with constraints := c }) constraints
  rw [rules_eq_rules_parts, rules_eq_rules_parts, parts]

theorem unnoticed_unsuppressed (resolve : Resolver) : Unnoticed unsuppressed resolve where
  kind _ := rfl
  name _ := rfl
  required _ := rfl
  rules p := p.facets.rules_unsuppressed resolve p.asked

/-- A date format speaks for five bounds. -/
theorem unsuppressed_of_dateFormat (hint : f.HasHint "date_format")
    (minimum maximum : Option Number) (minLength maxLength : Option Nat)
    (pattern : Option String) :
    (f.constrain fun c => { c with
      minimum := minimum, maximum := maximum, minLength := minLength, maxLength := maxLength,
      pattern := pattern }).unsuppressed = f.unsuppressed := by
  have date : (Hints.ofExtensions f.extensions).dateFormat.isSome = true :=
    isSome_hintText_iff.mpr hint
  simp only [unsuppressed, constrain, Constraints.unsuppressed, Hints.suppresses, date,
    Bool.true_or, if_true]
  rfl

/-- A hint for the spelling speaks for the pattern. -/
theorem unsuppressed_of_pattern (hint : f.HasHint "pattern") (pattern : Option String) :
    (f.constrain fun c => { c with pattern := pattern }).unsuppressed = f.unsuppressed := by
  have spelled : (Hints.ofExtensions f.extensions).pattern.isSome = true :=
    isSome_hintText_iff.mpr hint
  simp only [unsuppressed, constrain, Constraints.unsuppressed, Hints.suppresses, spelled,
    Bool.or_true, if_true]
  rfl

end Facets

namespace Schema

variable (s : Schema) (resolve : Resolver) (container : Path) (required : NameSet)

/-- Bounds that hints speak for change neither the rules nor the error. -/
theorem rules_unsuppressed :
    (s.mapFacets Facets.unsuppressed).rules resolve container required =
      s.rules resolve container required :=
  rules_mapFacets (Facets.unnoticed_unsuppressed resolve) s container required

variable {s} in
/-- What is changed at a place in bounds that hints speak for is not seen in the rules. -/
theorem rules_modifyAt_of_unsuppressed {place : List Turn} {change : Facets → Facets}
    (covered : ∀ n, s.at? place = some n →
      (change n.facets).unsuppressed = n.facets.unsuppressed) :
    (s.modifyAt change place).rules resolve container required =
      s.rules resolve container required := by
  rw [← rules_unsuppressed, mapFacets_modifyAt place s covered, rules_unsuppressed]

end Schema

/-! ## What is honoured -/

namespace Position

/-- The position with other constraints. -/
def constrain (change : Constraints → Constraints) (p : Position) : Position :=
  { p with facets := p.facets.constrain change }

variable (p : Position) (resolve : Resolver)

/-- The rules of a position in front of its choice of values. -/
def early : List Rule :=
  (if p.facets.isNullable then [.nullable] else []) ++ p.asked.toList ++ p.facets.shapeRules ++
    p.facets.spliced resolve

/-- Constraints do not reach what stands in front of them. -/
theorem rules_constrain (d : Constraints) :
    (p.constrain fun _ => d).rules resolve =
      p.early resolve ++ (d.enumeration.map Enumeration.rule).toList ++
        d.rules (Hints.ofExtensions p.facets.extensions) := by
  have parts := (p.facets.constrain fun _ => d).rules_eq_parts resolve p.asked
  rw [early, List.append_assoc]
  exact parts

/-- A bound that no hint speaks for gives its rule, if it is set, and the rest of the list
does not depend on it. -/
theorem rules_around_bound {b : Bound} (honoured : ¬ p.facets.Covers b) :
    ∃ front back, ∀ d : Constraints, d.unset b = p.facets.constraints.unset b →
      (p.constrain fun _ => d).rules resolve = front ++ (d.rule? b).toList ++ back := by
  have free : (Hints.ofExtensions p.facets.extensions).suppresses b = false :=
    Bool.eq_false_iff.mpr (mt Facets.suppresses_iff_covers.mp honoured)
  obtain ⟨before, after, around⟩ := p.facets.constraints.exists_rules_around free
  refine ⟨p.early resolve ++
    (p.facets.constraints.enumeration.map Enumeration.rule).toList ++ before, after, ?_⟩
  intro d rest
  have choice : d.enumeration = p.facets.constraints.enumeration := by
    rw [← Constraints.enumeration_unset (b := b), rest, Constraints.enumeration_unset]
  rw [rules_constrain, around d rest, choice]
  simp only [List.append_assoc]

/-- So does a choice of values, whatever the hints. -/
theorem rules_around_enumeration :
    ∃ front back, ∀ enumeration : Option Enumeration,
      (p.constrain fun c => { c with enumeration := enumeration }).rules resolve =
        front ++ (enumeration.map Enumeration.rule).toList ++ back :=
  ⟨p.early resolve, p.facets.constraints.rules (Hints.ofExtensions p.facets.extensions),
    fun enumeration =>
      p.rules_constrain resolve { p.facets.constraints with enumeration := enumeration }⟩

end Position

namespace Schema

open Site

/-- Suppression is exact. The bounds of value and length and the pattern of a node with a date
format may be replaced by any others, set or unset, and so may the pattern of a node whose
spelling is a hint: the rules of the tree, or the error, stay the same, wherever the node
stands. Every other bound that is set gives exactly one rule with its value in the list of
its node, and a choice of values does so in any case. Other values of the same bound put
their rule in the same place, or none if there is no value, and change nothing around it. -/
theorem suppression_is_exact (s : Schema) (resolve : Resolver) (container : Path)
    (required : NameSet) :
    (∀ place n, s.at? place = some n → n.facets.HasHint "date_format" →
      ∀ (minimum maximum : Option Number) (minLength maxLength : Option Nat)
        (pattern : Option String),
        (s.modifyAt (Facets.constrain fun c => { c with
            minimum := minimum, maximum := maximum, minLength := minLength,
            maxLength := maxLength, pattern := pattern }) place).rules resolve container required =
          s.rules resolve container required) ∧
    (∀ place n, s.at? place = some n → n.facets.HasHint "pattern" → ∀ pattern : Option String,
      (s.modifyAt (Facets.constrain fun c => { c with pattern := pattern }) place).rules resolve
          container required =
        s.rules resolve container required) ∧
    (∀ v ∈ (top container required s).preorder,
      (∀ b r, v.node.facets.constraints.rule? b = some r → ¬ v.node.facets.Covers b →
        ∃ front back, v.position.rules resolve = front ++ r :: back ∧
          ∀ d : Constraints, d.unset b = v.node.facets.constraints.unset b →
            (v.position.constrain fun _ => d).rules resolve =
              front ++ (d.rule? b).toList ++ back) ∧
      ∀ e, v.node.facets.constraints.enumeration = some e →
        ∃ front back, v.position.rules resolve = front ++ e.rule :: back ∧
          ∀ other : Option Enumeration,
            (v.position.constrain fun c => { c with enumeration := other }).rules resolve =
              front ++ (other.map Enumeration.rule).toList ++ back) ∧
    ∀ set, s.rules resolve container required = .ok set → ∀ e ∈ set.entries, ∃ v,
      (top container required s).preorder.find? (fun v => v.key = e.1) = some v ∧
        e.2 = v.position.rules resolve := by
  refine ⟨?dated, ?spelled, ?honoured, ?filed⟩
  case dated =>
    intro place n there hint minimum maximum minLength maxLength pattern
    refine rules_modifyAt_of_unsuppressed resolve container required fun m hm => ?_
    cases there.symm.trans hm
    exact Facets.unsuppressed_of_dateFormat hint minimum maximum minLength maxLength pattern
  case spelled =>
    intro place n there hint pattern
    refine rules_modifyAt_of_unsuppressed resolve container required fun m hm => ?_
    cases there.symm.trans hm
    exact Facets.unsuppressed_of_pattern hint pattern
  case honoured =>
    intro v _
    constructor
    · intro b r given honoured
      obtain ⟨front, back, around⟩ := v.position.rules_around_bound resolve honoured
      refine ⟨front, back, ?_, around⟩
      have own := around v.node.facets.constraints rfl
      rw [given, List.append_assoc] at own
      exact own
    · intro e given
      obtain ⟨front, back, around⟩ := v.position.rules_around_enumeration resolve
      refine ⟨front, back, ?_, around⟩
      have own : v.position.constrain (fun c => { c with enumeration := some e }) = v.position := by
        rw [← given]
        rfl
      rw [← own, around (some e), List.append_assoc]
      rfl
  case filed =>
    intro set compiled e filed
    exact exists_site_of_mem_entries compiled filed

/-- A day with a date format and a spelling of its own, and with bounds of all sorts. -/
def bornOn : Schema :=
  node { kind := some .string, key := some "born_on",
         constraints := { maxLength := some 10, maxItems := some 5,
                          enumeration := some (.values [.str "2000-01-01"]),
                          pattern := some "[0-9-]+" },
         extensions := Table.ofFirst [("date_format", .str "Y-m-d"), ("pattern", .str "/^20/")] }
    [] none

/-- A person, of whom the day of birth is known. -/
def person : Schema := node { kind := some .object, key := some "person" } [bornOn] none

/-- Without its length and its pattern the day of birth has the rules it has with them, and
among these are the number of items and the choice of values. -/
theorem suppression_of_bornOn :
    (person.modifyAt (Facets.constrain fun c => { c with
        minimum := none, maximum := none, minLength := none, maxLength := none,
        pattern := none }) [.property 0]).rules Registry.builtin.resolve Path.root NameSet.empty =
      person.rules Registry.builtin.resolve Path.root NameSet.empty ∧
    (person.modifyAt (Facets.constrain fun c => { c with pattern := none }) [.property 0]).rules
        Registry.builtin.resolve Path.root NameSet.empty =
      person.rules Registry.builtin.resolve Path.root NameSet.empty ∧
    ∃ set, person.rules Registry.builtin.resolve Path.root NameSet.empty = .ok set ∧
      ∃ rules, ("person.born_on", rules) ∈ set.entries ∧ .max (.int 5) ∈ rules ∧
        .oneOf [.str "2000-01-01"] ∈ rules := by
  obtain ⟨dated, spelled, honoured, filed⟩ :=
    suppression_is_exact person Registry.builtin.resolve Path.root NameSet.empty
  refine ⟨dated [.property 0] bornOn rfl ⟨.str "Y-m-d", rfl, nofun⟩ none none none none none,
    spelled [.property 0] bornOn rfl ⟨.str "/^20/", rfl, nofun⟩ none, ?_⟩
  obtain ⟨set, compiled, entry, there, key⟩ : ∃ set, person.rules Registry.builtin.resolve
      Path.root NameSet.empty = .ok set ∧ ∃ e ∈ set.entries, e.1 = "person.born_on" :=
    ⟨_, rfl, _, List.mem_cons_of_mem _ List.mem_cons_self, rfl⟩
  obtain ⟨v, first, rules⟩ := filed set compiled entry there
  have sites : (top Path.root NameSet.empty person).preorder =
      [top Path.root NameSet.empty person,
        Site.property (top Path.root NameSet.empty person) bornOn] := by
    rw [preorder_eq]
    show _ :: ((Site.property (top Path.root NameSet.empty person) bornOn).preorder ++ []) = _
    rw [preorder_eq]
    rfl
  have node : v.node = bornOn := by
    rw [sites, key] at first
    cases first
    rfl
  have visited := List.mem_of_find?_eq_some first
  obtain ⟨bounds, choice⟩ := honoured v visited
  refine ⟨set, compiled, entry.2, key ▸ there, ?_, ?_⟩
  · obtain ⟨front, back, list, -⟩ := bounds .maxItems (.max (.int 5)) (by rw [node]; rfl) id
    rw [rules, list]
    exact List.mem_append_right _ List.mem_cons_self
  · obtain ⟨front, back, list, -⟩ := choice (.values [.str "2000-01-01"]) (by rw [node]; rfl)
    rw [rules, list]
    exact List.mem_append_right _ List.mem_cons_self

end Schema

end PayloadRules
