import Mathlib.Logic.Relation
import PayloadRules.Proofs.Presence

/-!
# The rules that a `validation` hint names

The identifiers in a hint are the texts of its leaves: all that is reached through arrays and
is no array itself, from left to right (`Hints.identifiers_eq`). A null and an empty text name
nothing. Everything else names one rule, since no other leaf has an empty text.

How the leaves are grouped does not matter. Two arrays are regrouped into one another exactly
when they have the same leaves (`Json.regroups_iff`), so regrouping keeps the identifiers.

In a rule list the rules that are named stand together, and what stands around them does not
depend on the hint (`Facets.rules_around_spliced`).
-/

namespace PayloadRules

namespace Json

/-! ## Leaves -/

mutual

/-- What is reached from a value through arrays, from left to right. -/
def leaves : Json → List Json
  | .arr items => leavesOfAll items
  | .null => [.null]
  | .bool b => [.bool b]
  | .num n => [.num n]
  | .str s => [.str s]
  | .obj members => [.obj members]

def leavesOfAll : List Json → List Json
  | [] => []
  | v :: rest => leaves v ++ leavesOfAll rest

end

theorem leavesOfAll_append (items more : List Json) :
    leavesOfAll (items ++ more) = leavesOfAll items ++ leavesOfAll more := by
  induction items with
  | nil => rfl
  | cons v rest ih => rw [List.cons_append, leavesOfAll, leavesOfAll, ih, List.append_assoc]

/-- Whether a leaf names no rule. -/
def Silent (leaf : Json) : Prop := leaf = .null ∨ leaf = .str ""

instance : DecidablePred Silent
  | .null => isTrue (Or.inl rfl)
  | .str s => decidable_of_iff (s = "") (by simp [Silent])
  | .bool _ => isFalse nofun
  | .num _ => isFalse nofun
  | .arr _ => isFalse nofun
  | .obj _ => isFalse nofun

/-! ## Regrouping -/

/-- Whether a value becomes another one when the items of one array in it are spread out among
the items of the array around it. -/
inductive Spreads : Json → Json → Prop
  | here (front group back : List Json) :
    Spreads (.arr (front ++ .arr group :: back)) (.arr (front ++ group ++ back))
  | within (front back : List Json) {v w : Json} (deeper : Spreads v w) :
    Spreads (.arr (front ++ v :: back)) (.arr (front ++ w :: back))

/-- Whether two values differ in how the same elements are grouped into arrays. -/
def Regroups : Json → Json → Prop := Relation.EqvGen Spreads

theorem leaves_of_spreads {v w : Json} (spread : Spreads v w) : v.leaves = w.leaves := by
  induction spread with
  | here front group back => simp only [leaves, leavesOfAll_append, leavesOfAll, List.append_assoc]
  | within front back _ ih => simp only [leaves, leavesOfAll_append, leavesOfAll, ih]

theorem leaves_of_regroups {v w : Json} (regrouped : Regroups v w) : v.leaves = w.leaves := by
  induction regrouped with
  | rel v w spread => exact leaves_of_spreads spread
  | refl v => rfl
  | symm v w _ ih => exact ih.symm
  | trans v w u _ _ first second => exact first.trans second

mutual

/-- An item is regrouped into its leaves. -/
theorem regroups_leaves (front back : List Json) : ∀ v : Json,
    Regroups (.arr (front ++ v :: back)) (.arr (front ++ v.leaves ++ back))
  | .arr items =>
    .trans _ _ _ (.rel _ _ (.here front items back)) (regroups_leavesOfAll front back items)
  | .null => by simpa only [leaves, List.append_assoc] using .refl _
  | .bool _ => by simpa only [leaves, List.append_assoc] using .refl _
  | .num _ => by simpa only [leaves, List.append_assoc] using .refl _
  | .str _ => by simpa only [leaves, List.append_assoc] using .refl _
  | .obj _ => by simpa only [leaves, List.append_assoc] using .refl _

theorem regroups_leavesOfAll (front back : List Json) : ∀ items : List Json,
    Regroups (.arr (front ++ items ++ back)) (.arr (front ++ leavesOfAll items ++ back))
  | [] => .refl _
  | v :: rest => by
    have first := regroups_leaves front (rest ++ back) v
    have others := regroups_leavesOfAll (front ++ v.leaves) back rest
    simp only [leavesOfAll, List.append_assoc, List.cons_append] at first others ⊢
    exact .trans _ _ _ first others

end

/-- Arrays are regrouped into one another exactly when they have the same leaves. -/
theorem regroups_iff {xs ys : List Json} :
    Regroups (.arr xs) (.arr ys) ↔ (arr xs).leaves = (arr ys).leaves := by
  refine ⟨leaves_of_regroups, fun same => ?_⟩
  have spread (items : List Json) : Regroups (.arr items) (.arr (leavesOfAll items)) := by
    simpa only [List.nil_append, List.append_nil] using regroups_leavesOfAll [] [] items
  have flat : leavesOfAll xs = leavesOfAll ys := same
  exact .trans _ _ _ (spread xs) (flat ▸ .symm _ _ (spread ys))

/-! ## Texts of leaves -/

theorem numberText_ne_nil (n : Number) : numberText n ≠ [] := by
  cases n with
  | int i =>
    rw [numberText, Int.repr_eq_if]
    split
    · rw [Nat.toList_repr]
      exact Nat.toDigits_ne_nil
    · rw [String.toList_append]
      exact List.cons_ne_nil _ _
  | float x =>
    rw [numberText, Decimal.Layout.text]
    split
    · exact List.cons_ne_nil _ _
    · split
      · exact List.cons_ne_nil _ _
      · dsimp only
        split
        · rw [Decimal.placePoint]
          split <;> simp
        · simp [Decimal.withExponent]

theorem compactChars_ne_nil (v : Json) : v.compactChars ≠ [] := by
  cases v with
  | null => decide
  | bool b => cases b <;> decide
  | num n => exact numberText_ne_nil n
  | str s => exact List.cons_ne_nil _ _
  | arr items => cases items <;> exact List.cons_ne_nil _ _
  | obj members => cases members <;> exact List.cons_ne_nil _ _

end Json

/-- Of all values only the empty string has an empty text. -/
theorem Rule.rawText_eq_nil_iff {v : Json} : rawText v = [] ↔ v = .str "" := by
  cases v with
  | str s => simp [rawText]
  | _ => exact iff_of_false (Json.compactChars_ne_nil _) Json.noConfusion

/-! ## Identifiers -/

namespace Hints

/-- The identifier that a leaf is. -/
def identifier (leaf : Json) : String := String.ofList (Rule.rawText leaf)

mutual

/-- The identifiers in a value are the texts of its leaves, null and empty texts left out. -/
theorem identifiers_eq : ∀ v : Json,
    identifiers v = (v.leaves.filter fun leaf => ¬ leaf.Silent).map identifier
  | .arr items => identifiersAll_eq items
  | .null => rfl
  | .bool _ => rfl
  | .num _ => rfl
  | .str s => by
    rw [identifiers, Json.leaves]
    by_cases empty : s = ""
    · subst empty
      rfl
    · have named : ¬ (Json.str s).Silent := by simp [Json.Silent, empty]
      simp [empty, named, identifier, Rule.rawText]
  | .obj _ => rfl

theorem identifiersAll_eq : ∀ items : List Json,
    identifiersAll items =
      ((Json.leavesOfAll items).filter fun leaf => ¬ leaf.Silent).map identifier
  | [] => rfl
  | v :: rest => by
    rw [identifiersAll, identifiers_eq v, identifiersAll_eq rest, Json.leavesOfAll,
      List.filter_append, List.map_append]

end

theorem identifier_ne_empty {leaf : Json} (named : ¬ leaf.Silent) : identifier leaf ≠ "" := by
  intro empty
  have text : Rule.rawText leaf = [] := String.ofList_eq_empty_iff.mp empty
  exact named (Or.inr (Rule.rawText_eq_nil_iff.mp text))

end Hints

/-! ## Splicing -/

namespace Facets

variable {f : Facets} {extensions : Table Json}

/-- Of the hints of a node the identifiers are the only thing that the `validation` hint
decides. -/
theorem ofExtensions_of_same_others
    (others : ∀ name, name ≠ "validation" → extensions.get? name = f.extensions.get? name) :
    Hints.ofExtensions extensions =
      { Hints.ofExtensions f.extensions with
        validation := ((extensions.get? "validation").map Hints.identifiers).getD [] } := by
  simp only [Hints.ofExtensions, others "date_format" (by decide), others "mimes" (by decide),
    others "pattern" (by decide)]

variable (f) in
/-- The rules that are named stand together, and the rules around them depend neither on the
hint nor on what the identifiers are resolved to. -/
theorem rules_around_spliced (presence : Option Rule) :
    ∃ front back : List Rule, ∀ (extensions : Table Json) (resolve : Resolver),
      (∀ name, name ≠ "validation" → extensions.get? name = f.extensions.get? name) →
      ({ f with extensions := extensions } : Facets).rules resolve presence =
        front ++ ({ f with extensions := extensions } : Facets).spliced resolve ++ back := by
  refine ⟨(if f.isNullable then [.nullable] else []) ++ presence.toList ++ f.shapeRules,
    f.rangeRules, fun extensions resolve others => ?_⟩
  have hints := ofExtensions_of_same_others others
  have shape : ({ f with extensions := extensions } : Facets).shapeRules = f.shapeRules := by
    rw [shapeRules, hints]
    rfl
  have range : ({ f with extensions := extensions } : Facets).rangeRules = f.rangeRules := by
    rw [rangeRules, hints]
    rfl
  rw [rules_eq_parts, shape, range]
  rfl

end Facets

/-- A `validation` hint is flattened without loss and without change of order. Its identifiers
are the texts of its leaves, of which only null and the empty text are left out, and no
identifier is empty. Regrouping keeps them, and arrays with the same leaves are regrouped into
one another. In the rule list of a node stand exactly the rules that the identifiers are
resolved to, in this order, between rules that do not depend on them. -/
theorem hint_is_flattened :
    (∀ v : Json,
      Hints.identifiers v = (v.leaves.filter fun leaf => ¬ leaf.Silent).map Hints.identifier ∧
      "" ∉ Hints.identifiers v) ∧
    (∀ v w : Json, v.Regroups w → Hints.identifiers v = Hints.identifiers w) ∧
    (∀ xs ys : List Json,
      (Json.arr xs).Regroups (.arr ys) ↔ (Json.arr xs).leaves = (Json.arr ys).leaves) ∧
    ∀ (f : Facets) (presence : Option Rule), ∃ front back : List Rule,
      ∀ (extensions : Table Json) (resolve : Resolver),
        (∀ name, name ≠ "validation" → extensions.get? name = f.extensions.get? name) →
        ({ f with extensions := extensions } : Facets).rules resolve presence =
          front ++ (((extensions.get? "validation").map Hints.identifiers).getD []).map resolve ++
            back := by
  refine ⟨fun v => ⟨Hints.identifiers_eq v, fun empty => ?_⟩, fun v w regrouped => ?_,
    fun xs ys => Json.regroups_iff, fun f presence => f.rules_around_spliced presence⟩
  · rw [Hints.identifiers_eq] at empty
    obtain ⟨leaf, there, text⟩ := List.mem_map.mp empty
    have named : ¬ leaf.Silent := by simpa using (List.mem_filter.mp there).2
    exact Hints.identifier_ne_empty named text
  · rw [Hints.identifiers_eq, Hints.identifiers_eq, Json.leaves_of_regroups regrouped]

/-- Identifiers in groups, with gaps. -/
def groupedNames : Json :=
  .arr [.arr [.str "even", .null], .str "", .arr [.arr [.num (.int 7)], .str "short"]]

/-- The same identifiers and gaps in other groups. -/
def regroupedNames : Json :=
  .arr [.str "even", .arr [.null, .arr [.str "", .num (.int 7), .str "short"]]]

/-- Either way three rules are spliced in. -/
theorem hint_of_groupedNames :
    groupedNames.Regroups regroupedNames ∧
    Hints.identifiers groupedNames = Hints.identifiers regroupedNames ∧
    Hints.identifiers groupedNames = ["even", "7", "short"] ∧
    ∃ front back : List Rule, ∀ resolve : Resolver,
      ({ extensions := Table.ofFirst [("validation", groupedNames)] } : Facets).rules resolve none =
        front ++ [resolve "even", resolve "7", resolve "short"] ++ back := by
  obtain ⟨texts, kept, regroups, spliced⟩ := hint_is_flattened
  have regrouped : groupedNames.Regroups regroupedNames := (regroups _ _).mpr rfl
  have names : Hints.identifiers groupedNames = ["even", "7", "short"] := by
    rw [(texts groupedNames).1]
    rfl
  obtain ⟨front, back, around⟩ := spliced {} none
  refine ⟨regrouped, kept _ _ regrouped, names, front, back, fun resolve => ?_⟩
  have others (name : String) (other : name ≠ "validation") :
      (Table.ofFirst [("validation", groupedNames)]).get? name = none := by
    rw [Table.get?_ofFirst, lookup_cons_eq_ite, if_neg other, List.lookup_nil]
  have list := around (Table.ofFirst [("validation", groupedNames)]) resolve others
  rw [list, Table.get?_ofFirst, List.lookup_cons_self, Option.map_some, Option.getD_some, names]
  rfl

end PayloadRules
