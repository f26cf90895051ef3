import Mathlib.Data.List.Infix
import PayloadRules.Proofs.Merge

/-!
# Array names without bracket pairs

The name of an array is its parameter name without bracket pairs, and the pairs are taken
out in one pass (`dropBracketPairs_eq_flatten`). What stood on both sides of a pair comes
together. When that was an opening bracket on the left and a closing one on the right, they
make a new pair, and the pass does not come back to it.

So a pair is left over exactly when the parameter name has a bracket pair with nothing but
pairs in it (`infix_dropBracketPairs_iff`). Any other name loses its pairs for good, and a
second pass changes nothing.
-/

namespace PayloadRules

/-- An opening bracket and a closing one directly behind it. -/
def bracketPair : List Char := ['[', ']']

/-- The text of some pairs in a row, between two brackets. -/
def nestOf (pairs : Nat) : List Char :=
  '[' :: ((List.replicate pairs bracketPair).flatten ++ [']'])

/-- Whether somewhere in a text brackets stand around one or more pairs and nothing else. -/
def NestsPairs (cs : List Char) : Prop := ∃ pairs, nestOf (pairs + 1) <:+: cs

/-! ## One pass -/

theorem dropBracketPairs_sublist (cs : List Char) : (dropBracketPairs cs).Sublist cs := by
  fun_induction dropBracketPairs cs with
  | case1 => exact List.Sublist.slnil
  | case2 rest ih => exact (ih.cons ']').cons '['
  | case3 c rest _ ih => exact ih.cons_cons c

/-- A text that does not begin with a pair. -/
theorem not_bracketPair_prefix_cons {c : Char} {rest : List Char}
    (apart : ∀ behind, c = '[' → rest = ']' :: behind → False) : ¬ bracketPair <+: c :: rest := by
  rintro ⟨behind, starts⟩
  obtain ⟨rfl, rfl⟩ := List.cons.inj starts
  exact apart behind rfl rfl

/-- The pass changes nothing exactly where there is no pair. -/
theorem dropBracketPairs_eq_self_iff (cs : List Char) :
    dropBracketPairs cs = cs ↔ ¬ bracketPair <:+: cs := by
  fun_induction dropBracketPairs cs with
  | case1 => simp [bracketPair]
  | case2 rest ih =>
    have shorter := (dropBracketPairs_sublist rest).length_le
    refine iff_of_false (fun same => ?_) (not_not.mpr (List.prefix_append bracketPair rest).isInfix)
    have lengths := congrArg List.length same
    simp only [List.length_cons] at lengths
    omega
  | case3 c rest apart ih =>
    rw [List.cons_inj_right, ih, List.infix_cons_iff, not_or,
      and_iff_right (not_bracketPair_prefix_cons apart)]

/-- What is left begins with a closing bracket when only pairs stood before one. -/
theorem closing_prefix_dropBracketPairs_iff (cs : List Char) :
    [']'] <+: dropBracketPairs cs ↔
      ∃ pairs, (List.replicate pairs bracketPair).flatten ++ [']'] <+: cs := by
  fun_induction dropBracketPairs cs with
  | case1 => simp
  | case2 rest ih =>
    rw [ih]
    constructor
    · rintro ⟨pairs, starts⟩
      refine ⟨pairs + 1, ?_⟩
      simpa [List.replicate_succ, bracketPair] using starts
    · rintro ⟨_ | pairs, starts⟩
      · simp at starts
      · exact ⟨pairs, by simpa [List.replicate_succ, bracketPair] using starts⟩
  | case3 c rest apart ih =>
    constructor
    · intro starts
      exact ⟨0, by simpa using starts⟩
    · rintro ⟨_ | pairs, starts⟩
      · simpa using starts
      · simp only [List.replicate_succ, List.flatten_cons, List.append_assoc] at starts
        exact absurd ((List.prefix_append _ _).trans starts) (not_bracketPair_prefix_cons apart)

/-- A pair is left over where brackets stood around pairs. -/
theorem infix_dropBracketPairs_iff (cs : List Char) :
    bracketPair <:+: dropBracketPairs cs ↔ NestsPairs cs := by
  unfold NestsPairs
  fun_induction dropBracketPairs cs with
  | case1 => simp [bracketPair, nestOf]
  | case2 rest ih =>
    rw [ih]
    refine exists_congr fun pairs => ?_
    simp [List.infix_cons_iff, nestOf, List.replicate_succ, bracketPair]
  | case3 c rest apart ih =>
    have here (pairs : Nat) : nestOf pairs <+: c :: rest ↔
        c = '[' ∧ (List.replicate pairs bracketPair).flatten ++ [']'] <+: rest := by
      rw [nestOf, List.cons_prefix_cons, eq_comm]
    have left : bracketPair <+: c :: dropBracketPairs rest ↔
        ∃ pairs, nestOf pairs <+: c :: rest := by
      rw [bracketPair, List.cons_prefix_cons, closing_prefix_dropBracketPairs_iff, eq_comm]
      simp only [here, exists_and_left]
    have around : (∃ pairs, nestOf pairs <+: c :: rest) ↔
        ∃ pairs, nestOf (pairs + 1) <+: c :: rest := by
      constructor
      · rintro ⟨_ | pairs, starts⟩
        · exact absurd starts (not_bracketPair_prefix_cons apart)
        · exact ⟨pairs, starts⟩
      · rintro ⟨pairs, starts⟩
        exact ⟨pairs + 1, starts⟩
    rw [List.infix_cons_iff, left, around, ih, ← exists_or]
    simp only [List.infix_cons_iff]

/-- The pass cuts a text at its pairs and joins what it has cut. -/
theorem dropBracketPairs_eq_flatten (cs : List Char) :
    ∃ parts : List (List Char), (∀ p ∈ parts, ¬ bracketPair <:+: p) ∧
      cs = bracketPair.intercalate parts ∧ dropBracketPairs cs = parts.flatten := by
  -- there is always a first part, and a character that stays joins it
  suffices cut : ∃ first others, (∀ p ∈ first :: others, ¬ bracketPair <:+: p) ∧
      cs = bracketPair.intercalate (first :: others) ∧
      dropBracketPairs cs = (first :: others).flatten by
    obtain ⟨first, others, whole⟩ := cut
    exact ⟨first :: others, whole⟩
  fun_induction dropBracketPairs cs with
  | case1 => exact ⟨[], [], by simp [bracketPair], rfl, rfl⟩
  | case2 rest ih =>
    obtain ⟨first, others, free, text, joined⟩ := ih
    refine ⟨[], first :: others, List.forall_mem_cons.mpr ⟨by simp [bracketPair], free⟩, ?_, joined⟩
    rw [text]
    rfl
  | case3 c rest apart ih =>
    obtain ⟨first, others, free, text, joined⟩ := ih
    obtain ⟨free_first, free_others⟩ := List.forall_mem_cons.mp free
    have longer : bracketPair.intercalate ((c :: first) :: others) =
        c :: bracketPair.intercalate (first :: others) := by
      cases others <;> rfl
    have front : first <+: rest := by
      rw [text]
      cases others <;> simp [List.intercalate]
    refine ⟨c :: first, others, List.forall_mem_cons.mpr ⟨?_, free_others⟩, ?_, ?_⟩
    · rw [List.infix_cons_iff, not_or]
      exact ⟨fun starts => not_bracketPair_prefix_cons apart
        (starts.trans (List.cons_prefix_cons.mpr ⟨rfl, front⟩)), free_first⟩
    · rw [longer, text]
    · rw [joined, List.flatten_cons, List.flatten_cons, List.cons_append]

/-! ## The title of a merged schema -/

namespace Schema

/-- A binding with a name gives a schema its title, and when it is required it adds this
title to the names required around the schema. The title of an array is the name cut at its
bracket pairs and joined again. A pair is left in it exactly when the name has brackets
around nothing but pairs, and exactly then the title, taken as a name, would lose a pair
again. A name without pairs and the name of any other schema is the title as it is. -/
theorem title_is_name_without_pairs (s : Schema) (b : Binding) (name : String)
    (enclosing : NameSet) (named : b.name = some name) :
    ∃ title, (s.mergeBinding b enclosing).1.facets.title = some title ∧
      (s.mergeBinding b enclosing).2 =
        (if b.required = some true then enclosing.insert title else enclosing) ∧
      (s.kind = some .array →
        (∃ parts : List (List Char), (∀ p ∈ parts, ¬ bracketPair <:+: p) ∧
          name.toList = bracketPair.intercalate parts ∧ title.toList = parts.flatten) ∧
        (bracketPair <:+: title.toList ↔ NestsPairs name.toList) ∧
        ({ b with name := some title }.keyName s.kind = some title ↔ ¬ NestsPairs name.toList)) ∧
      (s.kind ≠ some .array ∨ ¬ bracketPair <:+: name.toList → title = name) := by
  have titled : (s.mergeBinding b enclosing).1.facets.title = some (pathName s.kind name) := by
    cases s
    simp [mergeBinding, modify, facets, Facets.mergeBinding, Binding.keyName, named, kind]
  refine ⟨pathName s.kind name, titled, ?around, fun array => ?array, ?unchanged⟩
  case around =>
    have merged : (s.mergeBinding b enclosing).1.facets.name? = some (pathName s.kind name) := by
      rw [Facets.name?, titled]
      rfl
    change b.joinRequired (s.mergeBinding b enclosing).1.facets enclosing = _
    rw [Facets.joinRequired_eq_insertAll, merged]
    split <;> rfl
  case array =>
    have text (name : String) : (pathName s.kind name).toList = dropBracketPairs name.toList := by
      rw [pathName, if_pos array, String.toList_ofList]
    refine ⟨?_, ?_, ?_⟩
    · rw [text]
      exact dropBracketPairs_eq_flatten name.toList
    · rw [text, infix_dropBracketPairs_iff]
    · rw [Binding.keyName, Option.map_some, Option.some_inj, ← String.toList_inj, text, text,
        dropBracketPairs_eq_self_iff, infix_dropBracketPairs_iff]
  case unchanged =>
    rintro (other | free)
    · rw [pathName, if_neg other]
    · rw [pathName]
      split
      · rw [(dropBracketPairs_eq_self_iff name.toList).mpr free, String.ofList_toList]
      · rfl

/-- A required list of codes, sent under a name that marks it as a list. -/
def sentCodes : Binding := { name := some "Code[]", required := some true }

/-- The codes lose their pair for good, and only because they are a list. -/
theorem title_of_sentCodes :
    let codes := node { kind := some .array } [] none
    let code := node { kind := some .string } [] none
    (codes.mergeBinding sentCodes NameSet.empty).1.facets.title = some "Code" ∧
      (codes.mergeBinding sentCodes NameSet.empty).2.names = ["Code"] ∧
      ¬ bracketPair <:+: "Code".toList ∧
      { sentCodes with name := some "Code" }.keyName (some .array) = some "Code" ∧
      (code.mergeBinding sentCodes NameSet.empty).1.facets.title = some "Code[]" := by
  intro codes code
  obtain ⟨title, titled, around, list, -⟩ :=
    title_is_name_without_pairs codes sentCodes "Code[]" NameSet.empty rfl
  obtain ⟨other, titled', -, -, unchanged⟩ :=
    title_is_name_without_pairs code sentCodes "Code[]" NameSet.empty rfl
  cases titled.symm.trans (show _ = some "Code" from rfl)
  obtain ⟨-, left, again⟩ := list rfl
  have free : ¬ bracketPair <:+: "Code".toList := by decide
  refine ⟨titled, congrArg NameSet.names around, free, again.mpr fun nests => free (left.mpr nests),
    ?_⟩
  rw [titled', unchanged (Or.inl (by decide))]

/-- Brackets around a pair become a pair, in the title, in the name that is required around
the array and in a name that goes on losing pairs. -/
theorem nested_pair_stays :
    (¬ ∀ (s : Schema) (b : Binding) (name title : String) (enclosing : NameSet),
        s.kind = some .array → b.name = some name →
        (s.mergeBinding b enclosing).1.facets.title = some title →
        ¬ bracketPair <:+: title.toList) ∧
      (¬ ∀ (s : Schema) (b : Binding) (name : String) (enclosing : NameSet),
        s.kind = some .array → b.name = some name → b.required = some true →
        ∀ added ∈ (s.mergeBinding b enclosing).2.names, added ∉ enclosing.names →
          ¬ bracketPair <:+: added.toList) ∧
      ¬ ∀ b : Binding,
        { b with name := b.keyName (some .array) }.keyName (some .array) =
          b.keyName (some .array) := by
  let ids := node { kind := some .array } [] none
  let sent : Binding := { name := some "ids[[]]", required := some true }
  refine ⟨fun always => ?_, fun always => ?_, fun always => ?_⟩
  · exact always ids sent _ "ids[]" NameSet.empty rfl rfl rfl (by decide)
  · exact always ids sent _ NameSet.empty rfl rfl rfl "ids[]" (by decide) (by decide) (by decide)
  · exact absurd (always sent) (by decide)

end Schema

end PayloadRules
