import PayloadRules.Json.Printer
import PayloadRules.Json.Token
import PayloadRules.Proofs.Numerals

/-!
# The tokens of laid out text

The scanner takes text apart that the printer has put together. What it finds does not depend
on the layout: blanks fall away, an escaped character is read as itself, and the digits of a
number add up to the number.

A run ends only where the next character shows that it has ended. So the text of a value is
looked at together with the text behind it, which may begin with anything but a character of
a run (`Token.EndsRun`).

Numbers are those of sixty-four bits without a sign and without a point (`Json.Legible`).
-/

namespace PayloadRules

namespace Json

namespace Token

/-! ## Scanning on -/

theorem foldlM_step_cons {s next : Scan} {c : Char} (first : step s c = some next)
    (cs : List Char) : (c :: cs).foldlM step s = cs.foldlM step next := by
  rw [List.foldlM_cons, first]
  rfl

/-- Scanning on after some tokens, the last one first. -/
def scanAfter? (done : List Token) (cs : List Char) : Option (List Token) :=
  (cs.foldlM step ⟨done, .blank⟩).bind finish

/-- Whether a run ends before a text. -/
def EndsRun (cs : List Char) : Prop := ∀ c rest, cs = c :: rest → isRunChar c = false

theorem endsRun_nil : EndsRun [] := fun _ _ same => (nomatch same)

theorem endsRun_cons {c : Char} {cs : List Char} (other : isRunChar c = false) :
    EndsRun (c :: cs) := by
  intro d rest same
  cases same
  exact other

theorem scanAfter?_nil (done : List Token) : scanAfter? done [] = some done.reverse := rfl

/-- One character that is a token, or none, by itself. -/
theorem scanAfter?_cons {done more : List Token} {c : Char}
    (alone : stepBlank done c = some ⟨more, .blank⟩) (cs : List Char) :
    scanAfter? done (c :: cs) = scanAfter? more cs := by
  have first : step ⟨done, .blank⟩ c = some ⟨more, .blank⟩ := alone
  rw [scanAfter?, foldlM_step_cons first, scanAfter?]

/-- The break of a line and the blanks that begin the next one are no tokens. -/
theorem scanAfter?_newline (done : List Token) (level : Nat) (cs : List Char) :
    scanAfter? done (newline level ++ cs) = scanAfter? done cs := by
  rw [newline, List.cons_append, scanAfter?_cons rfl]
  induction 2 * level with
  | zero => rfl
  | succ n ih => rw [List.replicate_succ, List.cons_append, scanAfter?_cons rfl, ih]

theorem foldlM_run (done : List Token) (chars : List Char) {cs : List Char}
    (part : ∀ c ∈ cs, isRunChar c) (rest : List Char) :
    (cs ++ rest).foldlM step ⟨done, .run chars⟩ =
      rest.foldlM step ⟨done, .run (cs.reverse ++ chars)⟩ := by
  induction cs generalizing chars with
  | nil => rfl
  | cons c cs ih =>
    obtain ⟨first, others⟩ := List.forall_mem_cons.mp part
    have on : step ⟨done, .run chars⟩ c = some ⟨done, .run (c :: chars)⟩ := if_pos first
    rw [List.cons_append, foldlM_step_cons on, ih _ others, List.reverse_cons, List.append_assoc,
      List.singleton_append]

theorem stepBlank_run {c : Char} (first : isRunChar c) (done : List Token) :
    stepBlank done c = some ⟨done, .run [c]⟩ := by
  have other : ∀ d, isRunChar d = false → c ≠ d := by
    rintro d no rfl
    rw [no] at first
    cases first
  simp only [stepBlank, other ' ' rfl, other '\t' rfl, other '\n' rfl, other '\r' rfl,
    other '[' rfl, other ']' rfl, other '{' rfl, other '}' rfl, other ',' rfl, other ':' rfl,
    other '"' rfl, first, or_self, if_false, if_true]

/-- A run is the token that it spells. -/
theorem scanAfter?_run {done : List Token} {cs rest : List Char} {t : Token}
    (spells : ofRun? cs = some t) (part : ∀ c ∈ cs, isRunChar c) (nonempty : cs ≠ [])
    (ends : EndsRun rest) : scanAfter? done (cs ++ rest) = scanAfter? (t :: done) rest := by
  obtain ⟨c, cs, rfl⟩ := List.exists_cons_of_ne_nil nonempty
  obtain ⟨first, others⟩ := List.forall_mem_cons.mp part
  have begun : step ⟨done, .blank⟩ c = some ⟨done, .run [c]⟩ := stepBlank_run first done
  have whole : (cs.reverse ++ [c]).reverse = c :: cs := by
    rw [List.reverse_append, List.reverse_reverse, List.reverse_singleton, List.singleton_append]
  rw [scanAfter?, List.cons_append, foldlM_step_cons begun, foldlM_run done [c] others]
  -- Either the text ends here, or the next character ends the run and is then read by itself.
  cases rest with
  | nil =>
    rw [List.foldlM_nil, Option.pure_def, Option.bind_some, finish]
    simp only [whole, spells]
    rfl
  | cons d rest =>
    have stop : step ⟨done, .run (cs.reverse ++ [c])⟩ d = stepBlank (t :: done) d := by
      have no : ¬ isRunChar d = true := by rw [ends d rest rfl]; exact Bool.false_ne_true
      simp only [step, if_neg no, whole, spells]
      rfl
    rw [List.foldlM_cons, stop]
    rfl

theorem scanAfter?_name {done : List Token} {name : String} {rest : List Char} {t : Token}
    (spells : ofRun? name.toList = some t) (part : name.toList.all isRunChar ∧ name.toList ≠ [])
    (ends : EndsRun rest) :
    scanAfter? done (name.toList ++ rest) = scanAfter? (t :: done) rest :=
  scanAfter?_run spells (List.all_eq_true.mp part.1) part.2 ends

/-! ## Strings -/

/-- A letter behind a backslash is read as the character for which it is written. -/
theorem char?_of_letter? {c letter : Char}
    (written : Text.EscapeLetters.common.letter? c = some letter) :
    letter ≠ 'u' ∧ escapeLetters.char? letter = some c := by
  have table : ∀ e ∈ Text.EscapeLetters.common, e.1 ≠ 'u' ∧ escapeLetters.char? e.1 = some e.2 := by
    decide
  obtain ⟨e, found, rfl⟩ := Option.map_eq_some_iff.mp written
  have same : e.2 = c := by
    simpa only [decide_eq_true_eq] using List.find?_some found
  exact same ▸ table e (List.mem_of_find?_eq_some found)

/-- A character without a letter is neither the quote nor the backslash. -/
theorem ne_of_letter?_eq_none {c : Char} (plain : Text.EscapeLetters.common.letter? c = none) :
    c ≠ '"' ∧ c ≠ '\\' := by
  constructor <;>
  · rintro rfl
    exact absurd plain (by decide)

/-- A digit of a unit that is not yet complete. -/
theorem step_unit {c : Char} {d : Nat} (digit : Text.digitValue? 16 c = some d) {k : Nat}
    (more : k ≠ 3) (done : List Token) (chars : Chars) (value : Nat) (high : Option Nat) :
    step ⟨done, .inText chars (.unit value k high)⟩ c =
      some ⟨done, .inText chars (.unit (value * 16 + d) (k + 1) high)⟩ := by
  simp only [step, stepText, digit, Option.bind_eq_bind, Option.bind_some, if_neg more,
    Option.pure_def]

/-- The last digit of a unit. -/
theorem step_lastUnit {c : Char} {d : Nat} (digit : Text.digitValue? 16 c = some d)
    (done : List Token) (chars : Chars) (value : Nat) (high : Option Nat) :
    step ⟨done, .inText chars (.unit value 3 high)⟩ c =
      some ⟨done, completeUnit chars (value * 16 + d) high⟩ := by
  simp only [step, stepText, digit, Option.bind_eq_bind, Option.bind_some, if_true,
    Option.pure_def]

/-- The number of a control character is read as the character. -/
theorem foldlM_fourDigits {c : Char} (control : c.toNat < 0x20) (done : List Token)
    (chars : List Char) :
    (Text.fourDigits c).foldlM step ⟨done, .inText (some chars) .plain⟩ =
      some ⟨done, .inText (some (c :: chars)) .plain⟩ := by
  have zero : Text.digitValue? 16 '0' = some 0 := rfl
  have high : Text.digitValue? 16 (Nat.digitChar (c.toNat / 16)) = some (c.toNat / 16) :=
    Decimal.digitValue?_digitChar 16 (by decide) _ (by omega)
  have low : Text.digitValue? 16 (Nat.digitChar (c.toNat % 16)) = some (c.toNat % 16) :=
    Decimal.digitValue?_digitChar 16 (by decide) _ (by omega)
  have whole : ((0 * 16 + 0) * 16 + 0) * 16 + c.toNat / 16 = c.toNat / 16 := by omega
  have number : c.toNat / 16 * 16 + c.toNat % 16 = c.toNat := by omega
  have single : ¬ (0xD800 ≤ c.toNat ∧ c.toNat ≤ 0xDBFF) ∧
      ¬ (0xDC00 ≤ c.toNat ∧ c.toNat ≤ 0xDFFF) := by omega
  have complete : completeUnit (some chars) c.toNat none = .inText (some (c :: chars)) .plain := by
    rw [completeUnit, if_neg single.1, if_neg single.2, Char.ofNat_toNat]
    rfl
  rw [Text.fourDigits, foldlM_step_cons rfl, foldlM_step_cons rfl,
    foldlM_step_cons (step_unit zero (by decide) ..),
    foldlM_step_cons (step_unit zero (by decide) ..),
    foldlM_step_cons (step_unit high (by decide) ..), whole,
    foldlM_step_cons (step_lastUnit low ..), number, complete]
  rfl

/-- A character is read back from how it stands inside a string. -/
theorem foldlM_escaped (c : Char) (done : List Token) (chars : List Char) :
    (escaped c).foldlM step ⟨done, .inText (some chars) .plain⟩ =
      some ⟨done, .inText (some (c :: chars)) .plain⟩ := by
  unfold escaped Text.escape
  split
  · next letter written =>
    obtain ⟨other, read⟩ := char?_of_letter? written
    have stands : step ⟨done, .inText (some chars) .backslash⟩ letter =
        some ⟨done, .inText (some (c :: chars)) .plain⟩ := by
      simp only [step, stepText, stepEscape, if_neg other, read]
      rfl
    rw [foldlM_step_cons rfl, foldlM_step_cons stands]
    rfl
  · next plain =>
    obtain ⟨quote, backslash⟩ := ne_of_letter?_eq_none plain
    split
    · next control => exact foldlM_fourDigits (of_decide_eq_true control) done chars
    · next printed =>
      have low : ¬ c.toNat < 0x20 := fun h => printed (decide_eq_true h)
      have stands : step ⟨done, .inText (some chars) .plain⟩ c =
          some ⟨done, .inText (some (c :: chars)) .plain⟩ := by
        simp only [step, stepText, stepPlain, if_neg quote, if_neg backslash, if_neg low]
        rfl
      rw [foldlM_step_cons stands]
      rfl

theorem foldlM_flatMap_escaped (cs : List Char) (done : List Token) (chars : List Char) :
    (cs.flatMap escaped).foldlM step ⟨done, .inText (some chars) .plain⟩ =
      some ⟨done, .inText (some (cs.reverse ++ chars)) .plain⟩ := by
  induction cs generalizing chars with
  | nil => rfl
  | cons c cs ih =>
    rw [List.flatMap_cons, List.foldlM_append, foldlM_escaped, Option.bind_eq_bind,
      Option.bind_some, ih, List.reverse_cons, List.append_assoc, List.singleton_append]

/-- A string in quotes is one token. -/
theorem scanAfter?_quoted (done : List Token) (s : String) (rest : List Char) :
    scanAfter? done (quoted s ++ rest) = scanAfter? (.text (some s) :: done) rest := by
  have opened : step ⟨done, .blank⟩ '"' = some ⟨done, .inText (some []) .plain⟩ := rfl
  have closed : step ⟨done, .inText (some (s.toList.reverse ++ [])) .plain⟩ '"' =
      some ⟨.text (some s) :: done, .blank⟩ := by
    have back : String.ofList (s.toList.reverse ++ []).reverse = s := by
      rw [List.append_nil, List.reverse_reverse, String.ofList_toList]
    simp only [step, stepText, stepPlain, if_true, Option.map_some, back]
  rw [scanAfter?, quoted, List.cons_append, List.append_assoc, List.singleton_append,
    foldlM_step_cons opened, List.foldlM_append, foldlM_flatMap_escaped, Option.bind_eq_bind,
    Option.bind_some, foldlM_step_cons closed, scanAfter?]

/-- The name of a member and what separates it from the value. -/
theorem scanAfter?_memberName (done : List Token) (name : String) (rest : List Char) :
    scanAfter? done (quoted name ++ ':' :: ' ' :: rest) =
      scanAfter? (.colon :: .text (some name) :: done) rest := by
  rw [scanAfter?_quoted, scanAfter?_cons rfl, scanAfter?_cons rfl]

/-! ## Numbers -/

theorem isRunChar_of_isDigit {c : Char} (digit : c.isDigit) : isRunChar c := by
  simp only [isRunChar, Char.isAlphanum, digit, Bool.or_true, Bool.true_or]

theorem scanAfter?_digits {done : List Token} {n : Nat} {rest : List Char}
    (fits : n < UInt64.size) (ends : EndsRun rest) :
    scanAfter? done (numberText (.int n) ++ rest) =
      scanAfter? (.scalar (some (.num (.int n))) :: done) rest := by
  have text : numberText (.int n) = Nat.toDigits 10 n := Nat.toList_repr
  have all : ∀ c ∈ Nat.toDigits 10 n, c.isDigit := fun _ hc => Decimal.isDigit_of_mem_toDigits hc
  have other : ∀ name : String, name.toList.all Char.isDigit = false →
      Nat.toDigits 10 n ≠ name.toList := by
    intro name no same
    rw [← same, List.all_eq_true.mpr all] at no
    cases no
  have spells : ofRun? (Nat.toDigits 10 n) = some (.scalar (some (.num (.int n)))) := by
    rw [ofRun?, if_neg (other "null" rfl), if_neg (other "true" rfl), if_neg (other "false" rfl),
      Decimal.ofChars?_toDigits, Option.map_some, Decimal.value?_digits fits, Option.map_some]
  rw [text]
  exact scanAfter?_run spells (fun c hc => isRunChar_of_isDigit (all c hc))
    Nat.toDigits_ne_nil ends

end Token

/-! ## Values -/

mutual

/-- The tokens of a value. -/
def spelled : Json → List Token
  | .null => [.scalar (some .null)]
  | .bool b => [.scalar (some (.bool b))]
  | .num n => [.scalar (some (.num n))]
  | .str s => [.text (some s)]
  | .arr [] => [.openArray, .closeArray]
  | .arr (v :: rest) => .openArray :: (spelled v ++ spelledItems rest)
  | .obj [] => [.openObject, .closeObject]
  | .obj ((k, v) :: rest) =>
    .openObject :: .text (some k) :: .colon :: (spelled v ++ spelledMembers rest)

/-- The items after the first and the closing bracket. -/
def spelledItems : List Json → List Token
  | [] => [.closeArray]
  | v :: rest => .comma :: (spelled v ++ spelledItems rest)

/-- The members after the first and the closing brace. -/
def spelledMembers : List (String × Json) → List Token
  | [] => [.closeObject]
  | (k, v) :: rest => .comma :: .text (some k) :: .colon :: (spelled v ++ spelledMembers rest)

end

mutual

/-- Whether no more than `room` containers are open at once, and all numbers are numbers of
sixty-four bits without a sign. -/
def Legible (room : Nat) : Json → Prop
  | .num (.int i) => 0 ≤ i ∧ i < UInt64.size
  | .num (.float _) => False
  | .arr items => 0 < room ∧ LegibleItems (room - 1) items
  | .obj members => 0 < room ∧ LegibleMembers (room - 1) members
  | .str _ => True
  | .bool _ => True
  | .null => True

def LegibleItems (room : Nat) : List Json → Prop
  | [] => True
  | v :: rest => Legible room v ∧ LegibleItems room rest

def LegibleMembers (room : Nat) : List (String × Json) → Prop
  | [] => True
  | (_, v) :: rest => Legible room v ∧ LegibleMembers room rest

end

theorem legibleItems_iff {room : Nat} {vs : List Json} :
    LegibleItems room vs ↔ ∀ v ∈ vs, Legible room v := by
  induction vs with
  | nil => simp only [LegibleItems, List.not_mem_nil, false_implies, implies_true]
  | cons v vs ih => rw [LegibleItems, ih, List.forall_mem_cons]

theorem legibleMembers_iff {room : Nat} {ms : List (String × Json)} :
    LegibleMembers room ms ↔ ∀ m ∈ ms, Legible room m.2 := by
  induction ms with
  | nil => simp only [LegibleMembers, List.not_mem_nil, false_implies, implies_true]
  | cons m ms ih => rw [LegibleMembers, ih, List.forall_mem_cons]

namespace Token

theorem endsRun_indentedItems (level : Nat) (vs : List Json) (cs : List Char) :
    EndsRun (indentedItems level vs ++ cs) := by
  cases vs with
  | nil => exact endsRun_cons rfl
  | cons v rest => exact endsRun_cons rfl

theorem endsRun_indentedMembers (level : Nat) (ms : List (String × Json)) (cs : List Char) :
    EndsRun (indentedMembers level ms ++ cs) := by
  cases ms with
  | nil => exact endsRun_cons rfl
  | cons m rest => exact endsRun_cons rfl

mutual

/-- The text of a value, before anything that ends a run, is its tokens. An item or a member
is always followed by a comma or by a line break, so that runs end inside a value too. -/
theorem scanAfter?_indented {room level : Nat} {done : List Token} {rest : List Char} :
    ∀ {v : Json}, Legible room v → EndsRun rest →
      scanAfter? done (indentedChars level v ++ rest) =
        scanAfter? (v.spelled.reverse ++ done) rest
  | .null, _, ends => scanAfter?_name rfl (by decide) ends
  | .bool true, _, ends => scanAfter?_name rfl (by decide) ends
  | .bool false, _, ends => scanAfter?_name rfl (by decide) ends
  | .num (.int i), whole, ends => by
    obtain ⟨positive, fits⟩ := whole
    obtain ⟨n, rfl⟩ := Int.eq_ofNat_of_zero_le positive
    exact scanAfter?_digits (Int.ofNat_lt.mp fits) ends
  | .num (.float _), float, _ => float.elim
  | .str s, _, _ => scanAfter?_quoted done s rest
  | .arr [], _, _ => by
    rw [indentedChars, List.cons_append, scanAfter?_cons rfl, List.cons_append, scanAfter?_cons rfl]
    rfl
  | .arr (v :: vs), ⟨_, first, others⟩, _ => by
    simp only [indentedChars, spelled, List.cons_append, List.append_assoc, List.reverse_cons,
      List.reverse_append, List.nil_append]
    rw [scanAfter?_cons rfl, scanAfter?_newline,
      scanAfter?_indented first (endsRun_indentedItems level vs rest),
      scanAfter?_indentedItems others]
  | .obj [], _, _ => by
    rw [indentedChars, List.cons_append, scanAfter?_cons rfl, List.cons_append, scanAfter?_cons rfl]
    rfl
  | .obj ((k, v) :: ms), ⟨_, first, others⟩, _ => by
    simp only [indentedChars, spelled, List.cons_append, List.append_assoc, List.reverse_cons,
      List.reverse_append, List.nil_append]
    rw [scanAfter?_cons rfl, scanAfter?_newline, scanAfter?_memberName,
      scanAfter?_indented first (endsRun_indentedMembers level ms rest),
      scanAfter?_indentedMembers others]

theorem scanAfter?_indentedItems {room level : Nat} {done : List Token} {rest : List Char} :
    ∀ {vs : List Json}, LegibleItems room vs →
      scanAfter? done (indentedItems level vs ++ rest) =
        scanAfter? ((spelledItems vs).reverse ++ done) rest
  | [], _ => by
    rw [indentedItems, List.append_assoc, scanAfter?_newline, List.singleton_append,
      scanAfter?_cons rfl]
    rfl
  | v :: vs, ⟨first, others⟩ => by
    simp only [indentedItems, spelledItems, List.cons_append, List.append_assoc, List.reverse_cons,
      List.reverse_append, List.nil_append]
    rw [scanAfter?_cons rfl, scanAfter?_newline,
      scanAfter?_indented first (endsRun_indentedItems level vs rest),
      scanAfter?_indentedItems others]

theorem scanAfter?_indentedMembers {room level : Nat} {done : List Token} {rest : List Char} :
    ∀ {ms : List (String × Json)}, LegibleMembers room ms →
      scanAfter? done (indentedMembers level ms ++ rest) =
        scanAfter? ((spelledMembers ms).reverse ++ done) rest
  | [], _ => by
    rw [indentedMembers, List.append_assoc, scanAfter?_newline, List.singleton_append,
      scanAfter?_cons rfl]
    rfl
  | (k, v) :: ms, ⟨first, others⟩ => by
    simp only [indentedMembers, spelledMembers, List.cons_append, List.append_assoc,
      List.reverse_cons, List.reverse_append, List.nil_append]
    rw [scanAfter?_cons rfl, scanAfter?_newline, scanAfter?_memberName,
      scanAfter?_indented first (endsRun_indentedMembers level ms rest),
      scanAfter?_indentedMembers others]

end

end Token

/-- The tokens of a text are those of the value that was laid out. -/
theorem tokens?_indented {room : Nat} {v : Json} (legible : Legible room v) :
    tokens? v.indented.toList = some v.spelled := by
  have whole : Token.scanAfter? [] (indentedChars 0 v ++ []) =
      Token.scanAfter? (v.spelled.reverse ++ []) [] :=
    Token.scanAfter?_indented legible Token.endsRun_nil
  rw [List.append_nil, List.append_nil, Token.scanAfter?_nil, List.reverse_reverse] at whole
  rw [indented, String.toList_ofList]
  exact whole

end Json

end PayloadRules
