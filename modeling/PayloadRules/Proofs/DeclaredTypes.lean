import Mathlib.Data.List.DropRight
import PayloadRules.Request.DeclaredType

/-!
# Declared types have one canonical text

A declaration is read in two cuts: the blanks around it, then a mark and the blanks behind
the mark. What trimming leaves is said without the procedure (`trim_eq_iff`): the part that
has no blank at either end, when only blanks stand around it.

From this it follows which texts declare a type (`parse_eq_ok_iff`): those that spell its name,
behind a mark and blanks when it accepts null, among blanks. The types that come out are those
with a trimmed name that begins with a mark only behind another one. Written without blanks,
such a type is read back, and a type that is read back is one of them
(`parse_text_eq_ok_iff`).
-/

namespace PayloadRules

namespace Text

/-- Whether a text consists of blanks. -/
def IsBlank (cs : List Char) : Prop := ∀ c ∈ cs, isBlank c = true

/-- Whether a text has no blank at either end. -/
def IsTrimmed (cs : List Char) : Prop :=
  (∀ c ∈ cs.head?, isBlank c = false) ∧ ∀ c ∈ cs.getLast?, isBlank c = false

variable {cs before after core : List Char}

/-! ## One end -/

theorem trimStart_append (blank : IsBlank before) (cs : List Char) :
    trimStart (before ++ cs) = trimStart cs :=
  List.dropWhile_append_of_pos blank

theorem trimStart_eq_self (solid : ∀ c ∈ cs.head?, isBlank c = false) : trimStart cs = cs := by
  cases cs with
  | nil => rfl
  | cons c rest =>
    have first : isBlank c = false := solid c rfl
    exact List.dropWhile_cons_of_neg (by simp [first])

theorem head?_trimStart (cs : List Char) : ∀ c ∈ (trimStart cs).head?, isBlank c = false := by
  intro c first
  have stop := List.head?_dropWhile_not isBlank cs
  rw [show (cs.dropWhile isBlank).head? = some c from first] at stop
  exact stop

/-- Behind a text the same is done from the other side. -/
theorem trimEnd_eq_reverse (cs : List Char) : trimEnd cs = (trimStart cs.reverse).reverse := rfl

theorem trimEnd_append (blank : IsBlank after) (cs : List Char) :
    trimEnd (cs ++ after) = trimEnd cs := by
  have turned : IsBlank after.reverse := by
    intro c there
    exact blank c (List.mem_reverse.mp there)
  rw [trimEnd_eq_reverse, List.reverse_append, trimStart_append turned, ← trimEnd_eq_reverse]

theorem trimEnd_eq_self (solid : ∀ c ∈ cs.getLast?, isBlank c = false) : trimEnd cs = cs := by
  have first : ∀ c ∈ cs.reverse.head?, isBlank c = false := by
    rwa [List.head?_reverse]
  rw [trimEnd_eq_reverse, trimStart_eq_self first, List.reverse_reverse]

/-! ## Both ends -/

theorem isTrimmed_trim (cs : List Char) : IsTrimmed (trim cs) := by
  constructor
  · intro c first
    have part : trim cs <+: trimStart cs := List.rdropWhile_prefix isBlank (trimStart cs)
    obtain ⟨more, whole⟩ := part
    apply head?_trimStart cs
    rw [← whole, List.head?_append, Option.mem_def.mp first]
    rfl
  · intro c last
    apply head?_trimStart (trimStart cs).reverse
    rwa [← List.getLast?_reverse]

theorem exists_blanks_around_trim (cs : List Char) :
    ∃ before after, IsBlank before ∧ IsBlank after ∧ cs = before ++ trim cs ++ after := by
  refine ⟨cs.takeWhile isBlank, (trimStart cs).rtakeWhile isBlank, ?_, ?_, ?_⟩
  · intro c there
    exact List.mem_takeWhile_imp there
  · intro c there
    exact List.mem_rtakeWhile_imp there
  · have back : trim cs ++ (trimStart cs).rtakeWhile isBlank = trimStart cs :=
      List.rdropWhile_append_rtakeWhile
    rw [List.append_assoc, back]
    exact List.takeWhile_append_dropWhile.symm

/-- Trimming leaves the part with no blank at either end among blanks. -/
theorem trim_eq_iff : trim cs = core ↔
    IsTrimmed core ∧ ∃ before after, IsBlank before ∧ IsBlank after ∧
      cs = before ++ core ++ after := by
  constructor
  · rintro rfl
    exact ⟨isTrimmed_trim cs, exists_blanks_around_trim cs⟩
  · rintro ⟨⟨first, last⟩, before, after, blankBefore, blankAfter, rfl⟩
    rw [trim, List.append_assoc, trimStart_append blankBefore]
    cases core with
    | nil => rw [List.nil_append, ← List.append_nil after, trimStart_append blankAfter]; rfl
    | cons c rest =>
      have front : trimStart (c :: rest ++ after) = c :: rest ++ after :=
        trimStart_eq_self first
      rw [front, trimEnd_append blankAfter, trimEnd_eq_self last]

theorem isBlank_nil : IsBlank [] := by
  intro c there
  cases there

end Text

namespace DeclaredType

variable {s : String} {t : DeclaredType} {cs rest : List Char}

/-! ## Reading -/

theorem parse_of_marked (marked : Text.trim s.toList = '?' :: rest) :
    parse s = if Text.trim rest = [] then .error (.empty (String.ofList ('?' :: rest)))
      else .ok ⟨String.ofList (Text.trim rest), true⟩ := by
  simp [parse, marked, split]

theorem parse_of_unmarked (unmarked : (Text.trim s.toList).head? ≠ some '?') :
    parse s = if Text.trim s.toList = [] then .error (.empty (String.ofList (Text.trim s.toList)))
      else .ok ⟨String.ofList (Text.trim s.toList), false⟩ := by
  have whole : split (Text.trim s.toList) = (false, Text.trim s.toList) := by
    unfold split
    split
    · next rest marked => simp [marked] at unmarked
    · rfl
  simp [parse, whole]

/-- Blanks behind a mark are cut off with those around the text, when no name follows. -/
theorem eq_nil_of_trim_eq_nil (trimmed : Text.IsTrimmed ('?' :: rest))
    (nameless : Text.trim rest = []) : rest = [] := by
  obtain ⟨-, before, after, blankBefore, blankAfter, blanks⟩ := Text.trim_eq_iff.mp nameless
  cases last : rest.getLast? with
  | none => exact List.getLast?_eq_none_iff.mp last
  | some c =>
    have solid : Text.isBlank c = false := by
      apply trimmed.2 c
      simp [List.getLast?_cons, last]
    have there : c ∈ before ++ [] ++ after := blanks ▸ List.mem_of_getLast? last
    rw [List.append_nil, List.mem_append] at there
    have blank : Text.isBlank c = true := there.elim (blankBefore c) (blankAfter c)
    rw [solid] at blank
    cases blank

/-- Only a text without a name is refused, with what trimming has left of it. -/
theorem parse_eq_error_iff {e : DeclaredTypeError} :
    parse s = .error e ↔ (Text.trim s.toList = [] ∨ Text.trim s.toList = ['?']) ∧
      e = .empty (String.ofList (Text.trim s.toList)) := by
  by_cases mark : (Text.trim s.toList).head? = some '?'
  · obtain ⟨rest, marked⟩ := List.head?_eq_some_iff.mp mark
    have trimmed : Text.IsTrimmed ('?' :: rest) := marked ▸ Text.isTrimmed_trim s.toList
    rw [parse_of_marked marked, marked]
    split
    · next nameless =>
      rw [eq_nil_of_trim_eq_nil trimmed nameless]
      simp [eq_comm]
    · next named =>
      refine iff_of_false (fun read => by cases read) ?_
      rintro ⟨empty | only, -⟩
      · cases empty
      · cases only
        exact named rfl
  · rw [parse_of_unmarked mark]
    split
    · next nameless => simp [nameless, eq_comm]
    · next named =>
      refine iff_of_false (fun read => by cases read) ?_
      rintro ⟨empty | only, -⟩
      · exact named empty
      · exact mark (by rw [only]; rfl)

/-! ## The types that are read -/

/-- A type whose name is there, is trimmed, and begins with a mark only behind another one. -/
structure IsCanonical (t : DeclaredType) : Prop where
  named : t.typeName ≠ ""
  trimmed : Text.IsTrimmed t.typeName.toList
  marked : t.typeName.toList.head? = some '?' → t.nullable = true

/-- The texts of a type: its name, behind a mark and blanks when it accepts null, among blanks. -/
inductive Spells : DeclaredType → List Char → Prop
  | plain {name : String} {before after : List Char} :
      Text.IsBlank before → Text.IsBlank after →
      Spells ⟨name, false⟩ (before ++ name.toList ++ after)
  | marked {name : String} {before between after : List Char} : Text.IsBlank before →
      Text.IsBlank between → Text.IsBlank after →
      Spells ⟨name, true⟩ (before ++ '?' :: (between ++ name.toList) ++ after)

theorem isTrimmed_marked {name : List Char} (named : name ≠ []) (trimmed : Text.IsTrimmed name)
    (between : List Char) : Text.IsTrimmed ('?' :: (between ++ name)) := by
  constructor
  · intro c first
    cases first
    decide
  · intro c last
    rw [← List.cons_append, List.getLast?_append_of_ne_nil _ named] at last
    exact trimmed.2 c last

theorem parse_of_spells (canonical : t.IsCanonical) (spells : t.Spells s.toList) :
    parse s = .ok t := by
  obtain ⟨named, trimmed, marked⟩ := canonical
  generalize written : s.toList = cs at spells
  cases spells with
  | @plain name before after blankBefore blankAfter =>
    have whole : Text.trim s.toList = name.toList := by
      rw [written]
      exact Text.trim_eq_iff.mpr ⟨trimmed, before, after, blankBefore, blankAfter, rfl⟩
    have unmarked : (Text.trim s.toList).head? ≠ some '?' := by
      intro mark
      rw [whole] at mark
      cases marked mark
    rw [parse_of_unmarked unmarked, whole, if_neg (by simpa using named), String.ofList_toList]
  | @marked name before between after blankBefore blankBetween blankAfter =>
    have there : name.toList ≠ [] := by simpa using named
    have whole : Text.trim s.toList = '?' :: (between ++ name.toList) := by
      rw [written]
      exact Text.trim_eq_iff.mpr ⟨isTrimmed_marked there trimmed between, before, after,
        blankBefore, blankAfter, rfl⟩
    have cut : Text.trim (between ++ name.toList) = name.toList :=
      Text.trim_eq_iff.mpr ⟨trimmed, between, [], blankBetween, Text.isBlank_nil, by simp⟩
    rw [parse_of_marked whole, cut, if_neg there, String.ofList_toList]

theorem spells_of_parse (read : parse s = .ok t) : t.IsCanonical ∧ t.Spells s.toList := by
  obtain ⟨whole, cut⟩ : ∃ whole, Text.trim s.toList = whole := ⟨_, rfl⟩
  obtain ⟨trimmed, before, after, blankBefore, blankAfter, around⟩ := Text.trim_eq_iff.mp cut
  by_cases mark : whole.head? = some '?'
  · obtain ⟨rest, rfl⟩ := List.head?_eq_some_iff.mp mark
    obtain ⟨name, named⟩ : ∃ name, Text.trim rest = name := ⟨_, rfl⟩
    obtain ⟨trimmedName, between, behind, blankBetween, blankBehind, rfl⟩ :=
      Text.trim_eq_iff.mp named
    rw [parse_of_marked cut, named] at read
    split at read
    · cases read
    · next there =>
      cases read
      -- The blanks behind the name are those the second cut takes and those the first took.
      refine ⟨⟨by simpa using there, by simpa using trimmedName, fun _ => rfl⟩, ?_⟩
      have text : s.toList =
          before ++ '?' :: (between ++ (String.ofList name).toList) ++ (behind ++ after) := by
        rw [around, String.toList_ofList]
        simp
      have blanks : Text.IsBlank (behind ++ after) := by
        intro c there
        exact (List.mem_append.mp there).elim (blankBehind c) (blankAfter c)
      rw [text]
      exact .marked blankBefore blankBetween blanks
  · rw [parse_of_unmarked (by rwa [cut]), cut] at read
    split at read
    · cases read
    · next there =>
      cases read
      refine ⟨⟨by simpa using there, by simpa using trimmed, fun more => ?_⟩, ?_⟩
      · rw [String.toList_ofList] at more
        exact absurd more mark
      · have text : s.toList = before ++ (String.ofList whole).toList ++ after := by
          rw [around, String.toList_ofList]
        rw [text]
        exact .plain blankBefore blankAfter

theorem parse_eq_ok_iff : parse s = .ok t ↔ t.IsCanonical ∧ t.Spells s.toList := by
  constructor
  · exact spells_of_parse
  · rintro ⟨canonical, spells⟩
    exact parse_of_spells canonical spells

/-! ## The text of a type -/

/-- Without blanks a type is spelled as it is written. -/
theorem spells_text (t : DeclaredType) : t.Spells t.text.toList := by
  obtain ⟨name, nullable⟩ := t
  cases nullable with
  | false =>
    have plain : Spells ⟨name, false⟩ _ := .plain Text.isBlank_nil Text.isBlank_nil
    simpa [text] using plain
  | true =>
    have marked : Spells ⟨name, true⟩ _ :=
      .marked Text.isBlank_nil Text.isBlank_nil Text.isBlank_nil
    simpa [text] using marked

/-- The types that are read back are the canonical ones. -/
theorem parse_text_eq_ok_iff : parse t.text = .ok t ↔ t.IsCanonical := by
  rw [parse_eq_ok_iff]
  exact and_iff_left (spells_text t)

theorem parse_text_of_parse (read : parse s = .ok t) : parse t.text = .ok t :=
  parse_text_eq_ok_iff.mpr (parse_eq_ok_iff.mp read).1

/-- A text declares nothing exactly when trimming leaves nothing or a bare mark. Any other text
declares the one canonical type that it spells: the name is there, is trimmed, and begins with
a mark only behind another mark. The canonical types are those that are read back from their
own text, so two texts declare the same type exactly when the types are written alike. -/
theorem declared_types_have_one_text (s : String) :
    (∀ e, parse s = .error e ↔ (Text.trim s.toList = [] ∨ Text.trim s.toList = ['?']) ∧
      e = .empty (String.ofList (Text.trim s.toList))) ∧
    (∀ t, parse s = .ok t ↔ t.IsCanonical ∧ t.Spells s.toList) ∧
    (∀ t, parse s = .ok t → t.IsCanonical ∧ parse t.text = .ok t) ∧
    (∀ t : DeclaredType, parse t.text = .ok t ↔ t.IsCanonical) ∧
    ∀ other t u, parse s = .ok t → parse other = .ok u → (t = u ↔ t.text = u.text) := by
  refine ⟨fun e => parse_eq_error_iff, fun t => parse_eq_ok_iff, fun t read => ?back,
    fun t => parse_text_eq_ok_iff, fun other t u readT readU => ?alike⟩
  case back => exact ⟨(parse_eq_ok_iff.mp read).1, parse_text_of_parse read⟩
  case alike =>
    constructor
    · exact congrArg text
    · intro same
      have back := parse_text_of_parse readT
      rw [same, parse_text_of_parse readU] at back
      cases back
      rfl

/-- Wide, no-break and line-separating blanks do not count, and of two marks one belongs to the
name. -/
theorem money_has_one_text :
    let money : DeclaredType := ⟨"?Money", true⟩
    parse "\u3000?\u00a0 ?Money\u2028" = .ok money ∧ money.IsCanonical ∧
      money.text = "??Money" ∧ parse "??Money" = .ok money ∧
      parse " ?\u2003" = .error (.empty "?") ∧
      (money = ⟨"Money", true⟩ ↔ money.text = "?Money") := by
  intro money
  obtain ⟨-, -, back, -, alike⟩ := declared_types_have_one_text "\u3000?\u00a0 ?Money\u2028"
  obtain ⟨refused, -, -, -, -⟩ := declared_types_have_one_text " ?\u2003"
  have read : parse "\u3000?\u00a0 ?Money\u2028" = .ok money := by decide
  obtain ⟨canonical, again⟩ := back money read
  exact ⟨read, canonical, by decide, again, (refused _).mpr ⟨Or.inr (by decide), by decide⟩,
    alike "?Money" money ⟨"Money", true⟩ read (by decide)⟩

end DeclaredType

end PayloadRules
