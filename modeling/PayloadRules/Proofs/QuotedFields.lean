import Mathlib.Data.List.Basic
import PayloadRules.Rule.Basic

/-!
# Quoted fields are read back

The operand of a choice of values is one text for a whole list, so a reader has to find the
places where one value ends and the next begins. A quote that belongs to a value is always
doubled, so the first quote that is not ends it, whatever the value holds
(`readFrom?_doubleQuotes`).

Reading gives back what was written (`readFields?_writeFields`) and accepts nothing else
(`eq_writeFields_of_readFields?`). So a list has one text, and a text is that of one list.
-/

namespace PayloadRules

namespace Text

variable {current field cs : List Char} {fields rest : List (List Char)}

/-! ## Writing, a field at a time -/

/-- What is written behind the characters of a field, with the fields that follow it. -/
def closing : List (List Char) → List Char
  | [] => ['"']
  | next :: rest => '"' :: ',' :: writeFields (next :: rest)

theorem writeFields_cons (field : List Char) (rest : List (List Char)) :
    writeFields (field :: rest) = '"' :: (doubleQuotes field ++ closing rest) := by
  cases rest with
  | nil => simp [writeFields, writeField, closing]
  | cons next rest => simp [writeFields, writeField, closing, List.intercalate]

theorem doubleQuotes_other {c : Char} (other : c ≠ '"') (field : List Char) :
    doubleQuotes (c :: field) = c :: doubleQuotes field := if_neg other

/-! ## What is written is read back -/

/-- Any character but a quote belongs to the field. -/
theorem readFrom?_other {c : Char} (other : c ≠ '"') (current rest : List Char) :
    readFrom? current (c :: rest) = readFrom? (c :: current) rest := by
  rw [readFrom?, if_neg other]
  all_goals simp [other]

/-- A field is read up to the first quote that is not doubled. -/
theorem readFrom?_doubleQuotes (current field behind : List Char) :
    readFrom? current (doubleQuotes field ++ '"' :: behind) =
      readFrom? (field.reverse ++ current) ('"' :: behind) := by
  induction field generalizing current with
  | nil => rfl
  | cons c field ih =>
    have turn : (c :: field).reverse ++ current = field.reverse ++ c :: current := by simp
    rw [turn, ← ih]
    by_cases quote : c = '"'
    · subst quote
      rfl
    · rw [doubleQuotes_other quote, List.cons_append, readFrom?_other quote]

theorem readFrom?_written (current field : List Char) (rest : List (List Char)) :
    readFrom? current (doubleQuotes field ++ closing rest) =
      some ((current.reverse ++ field) :: rest) := by
  induction rest generalizing current field with
  | nil =>
    rw [closing, readFrom?_doubleQuotes, readFrom?]
    simp
  | cons next rest ih =>
    rw [closing, readFrom?_doubleQuotes, writeFields_cons, readFrom?, ih]
    simp

theorem readFields?_writeFields (fields : List (List Char)) :
    readFields? (writeFields fields) = some fields := by
  cases fields with
  | nil => rfl
  | cons field rest =>
    rw [writeFields_cons, readFields?, readFrom?_written]
    rfl

/-! ## Nothing else is read -/

/-- What is read on after a quote has been written as the rest of the current field and the
fields behind it. -/
theorem exists_written_of_readFrom? (read : readFrom? current cs = some fields) :
    ∃ field rest, fields = (current.reverse ++ field) :: rest ∧
      cs = doubleQuotes field ++ closing rest := by
  -- The cases are the reader's: the text ends too early (1), ends the list (2), goes on behind
  -- a doubled quote (3) or with the next field (4), stops at a quote (5), goes on (6).
  fun_induction readFrom? current cs generalizing fields with
  | case1 => cases read
  | case2 current =>
    cases read
    exact ⟨[], [], by simp, rfl⟩
  | case3 current cs ih =>
    obtain ⟨field, rest, rfl, rfl⟩ := ih read
    exact ⟨'"' :: field, rest, by simp, rfl⟩
  | case4 current cs ih =>
    obtain ⟨others, found, rfl⟩ := Option.map_eq_some_iff.mp read
    obtain ⟨field, rest, rfl, rfl⟩ := ih found
    exact ⟨[], field :: rest, by simp, by rw [closing, writeFields_cons]; rfl⟩
  | case5 => cases read
  | case6 current c cs _ _ _ other ih =>
    obtain ⟨field, rest, rfl, rfl⟩ := ih read
    exact ⟨c :: field, rest, by simp, by rw [doubleQuotes_other other, List.cons_append]⟩

theorem eq_writeFields_of_readFields? (read : readFields? cs = some fields) :
    cs = writeFields fields := by
  unfold readFields? at read
  split at read
  · cases read
    rfl
  · obtain ⟨field, rest, rfl, rfl⟩ := exists_written_of_readFrom? read
    rw [writeFields_cons]
    rfl
  · cases read

/-- Lists are written alike only when they are the same. -/
theorem writeFields_inj {others : List (List Char)} :
    writeFields fields = writeFields others ↔ fields = others := by
  constructor
  · intro same
    have read := readFields?_writeFields fields
    rw [same, readFields?_writeFields] at read
    exact (Option.some.inj read).symm
  · rintro rfl
    rfl

end Text

namespace Rule

/-- The text of a choice of values. -/
theorem text_oneOf (values : List Json) :
    (oneOf values).text = "in:" ++ String.ofList (Text.writeFields (values.map rawText)) := rfl

/-- The operand of a choice of values reads as the texts of the values, in their order, and no
other text does. So two choices are written alike exactly when their values have the same texts,
one by one. -/
theorem choice_reads_back (values : List Json) :
    (∃ operand : String, (oneOf values).text = "in:" ++ operand ∧
      Text.readFields? operand.toList = some (values.map rawText) ∧
      ∀ other : String, Text.readFields? other.toList = some (values.map rawText) →
        other = operand) ∧
    ∀ others : List Json,
      (oneOf values).text = (oneOf others).text ↔ values.map rawText = others.map rawText := by
  refine ⟨⟨_, text_oneOf values, ?read, ?only⟩, fun others => ?alike⟩
  case read =>
    rw [String.toList_ofList]
    exact Text.readFields?_writeFields (values.map rawText)
  case only =>
    intro other read
    rw [← Text.eq_writeFields_of_readFields? read, String.ofList_toList]
  case alike =>
    rw [text_oneOf, text_oneOf, String.append_right_inj, String.ofList_inj]
    exact Text.writeFields_inj

/-- A value that looks like two stays one, and an empty value is not the same as none. -/
example : (oneOf [.str "a\",\"b"]).text = "in:\"a\"\",\"\"b\"" ∧ (oneOf []).text = "in:" ∧
    (oneOf [.str ""]).text = "in:\"\"" := by decide

end Rule

end PayloadRules
