import PayloadRules.Json.Basic
import PayloadRules.Text.Digit
import PayloadRules.Text.Escape

/-!
# JSON tokens

The text is read one character at a time by a machine whose state is the token
being read and the tokens already read. A quoted string is decoded while it is
read; a run of letters, digits, signs and points is one token, judged as a whole
when it ends, and is either a literal name or a number.

`tokens?` refuses a control character inside a string, an unknown escape, a run
that is neither a name nor a number, a string without its closing quote and any
character that starts no token. Blanks between tokens are the four of the
format; no other character is skipped.

A string with half of a surrogate pair and a number out of range are tokens, but
denote nothing.
-/

namespace PayloadRules

namespace Json

/-- A token of JSON text. -/
inductive Token where
  | openArray
  | closeArray
  | openObject
  | closeObject
  | comma
  | colon
  | text (value : Option String)
  | scalar (value : Option Json)

namespace Token

/-- The characters of a string so far, last one first; `none` once half of a
surrogate pair has stood alone. -/
abbrev Chars := Option (List Char)

/-- Where a string stands between two of its characters. The first half of a
surrogate pair is kept until the second half is complete. -/
inductive Escape where
  | plain
  | backslash
  | unit (value digits : Nat) (high : Option Nat)
  | secondHalf (high : Nat)
  | secondUnit (high : Nat)
deriving DecidableEq, Repr

/-- The token being read, its characters last one first. -/
inductive Pending where
  | blank
  | run (chars : List Char)
  | inText (chars : Chars) (escape : Escape)

/-- The tokens already read, last one first, and the one being read. -/
structure Scan where
  done : List Token
  pending : Pending

/-! ## Runs -/

/-- Characters of literal names and numbers. -/
def isRunChar (c : Char) : Bool := c.isAlphanum || c == '+' || c == '-' || c == '.'

/-- The scalar that a complete run spells. -/
def ofRun? (chars : List Char) : Option Token :=
  if chars = "null".toList then some (.scalar (some .null))
  else if chars = "true".toList then some (.scalar (some (.bool true)))
  else if chars = "false".toList then some (.scalar (some (.bool false)))
  else (Decimal.Literal.ofChars? chars).map fun l => .scalar (l.value?.map .num)

/-! ## Strings -/

/-- The escape letters: the common ones, and the slash for itself. -/
def escapeLetters : Text.EscapeLetters := ('/', '/') :: Text.EscapeLetters.common

/-- The characters and one more. -/
def Chars.push (chars : Chars) (c : Char) : Chars := chars.map (c :: ·)

/-- A complete sixteen-bit unit inside a string. A first half waits for the
second one; a second half completes a first one. -/
def completeUnit (chars : Chars) (value : Nat) : Option Nat → Pending
  | none =>
    if 0xD800 ≤ value ∧ value ≤ 0xDBFF then .inText chars (.secondHalf value)
    else if 0xDC00 ≤ value ∧ value ≤ 0xDFFF then .inText none .plain
    else .inText (chars.push (Char.ofNat value)) .plain
  | some high =>
    if 0xDC00 ≤ value ∧ value ≤ 0xDFFF then
      let c := Char.ofNat (0x10000 + (high - 0xD800) * 0x400 + (value - 0xDC00))
      .inText (chars.push c) .plain
    else .inText none .plain

/-- One character of a string outside escapes. The closing quote completes the
token. -/
def stepPlain (done : List Token) (chars : Chars) (c : Char) : Option Scan :=
  if c = '"' then some ⟨.text (chars.map fun cs => String.ofList cs.reverse) :: done, .blank⟩
  else if c = '\\' then some ⟨done, .inText chars .backslash⟩
  else if c.toNat < 0x20 then none
  else some ⟨done, .inText (chars.push c) .plain⟩

/-- The character after a backslash, `high` being the first half that waits. -/
def stepEscape (done : List Token) (chars : Chars) (high : Option Nat) (c : Char) :
    Option Scan :=
  if c = 'u' then some ⟨done, .inText chars (.unit 0 0 high)⟩
  else
    let chars : Chars := if high.isSome then none else chars
    (escapeLetters.char? c).map fun d => ⟨done, .inText (chars.push d) .plain⟩

/-- One character inside a string. -/
def stepText (done : List Token) (chars : Chars) (c : Char) : Escape → Option Scan
  | .plain => stepPlain done chars c
  | .backslash => stepEscape done chars none c
  | .unit value digits high => do
    let value := value * 16 + (← Text.digitValue? 16 c)
    if digits = 3 then return ⟨done, completeUnit chars value high⟩
    else return ⟨done, .inText chars (.unit value (digits + 1) high)⟩
  | .secondHalf high =>
    if c = '\\' then some ⟨done, .inText chars (.secondUnit high)⟩ else stepPlain done none c
  | .secondUnit high => stepEscape done chars (some high) c

/-! ## The machine -/

/-- One character between tokens, after the tokens `done`. -/
def stepBlank (done : List Token) (c : Char) : Option Scan :=
  if c = ' ' ∨ c = '\t' ∨ c = '\n' ∨ c = '\r' then some ⟨done, .blank⟩
  else if c = '[' then some ⟨.openArray :: done, .blank⟩
  else if c = ']' then some ⟨.closeArray :: done, .blank⟩
  else if c = '{' then some ⟨.openObject :: done, .blank⟩
  else if c = '}' then some ⟨.closeObject :: done, .blank⟩
  else if c = ',' then some ⟨.comma :: done, .blank⟩
  else if c = ':' then some ⟨.colon :: done, .blank⟩
  else if c = '"' then some ⟨done, .inText (some []) .plain⟩
  else if isRunChar c then some ⟨done, .run [c]⟩
  else none

/-- One character. A run ends at the first character that cannot extend it, and
that character is then read as one between tokens. -/
def step (s : Scan) (c : Char) : Option Scan :=
  match s.pending with
  | .blank => stepBlank s.done c
  | .run chars =>
    if isRunChar c then some ⟨s.done, .run (c :: chars)⟩
    else do stepBlank ((← ofRun? chars.reverse) :: s.done) c
  | .inText chars escape => stepText s.done chars c escape

/-- The tokens after the last character. -/
def finish (s : Scan) : Option (List Token) :=
  match s.pending with
  | .blank => some s.done.reverse
  | .run chars => do return ((← ofRun? chars.reverse) :: s.done).reverse
  | .inText _ _ => none

end Token

/-- The tokens of a text. -/
def tokens? (cs : List Char) : Option (List Token) :=
  (cs.foldlM Token.step ⟨[], .blank⟩).bind Token.finish

end Json

end PayloadRules
