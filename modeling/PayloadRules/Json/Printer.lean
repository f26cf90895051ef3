import PayloadRules.Decimal.Shortest
import PayloadRules.Json.Basic
import PayloadRules.Text.Escape

/-!
# JSON text

Two layouts of one value. The compact one has no blank outside strings; the
indented one puts every item and member on a line of its own, two spaces per
level, a space after the colon, and leaves nothing between the brackets of an
empty array or object. Neither ends in a line break.

In strings the quote, the backslash and the characters below U+0020 are
escaped, five of the latter by a letter and the others by four lower-case
hexadecimal digits; all other characters stand for themselves.
-/

namespace PayloadRules

namespace Json

/-! ## Scalars -/

/-- A character as it stands inside a string. -/
def escaped (c : Char) : List Char :=
  Text.escape Text.EscapeLetters.common (·.toNat < 0x20) Text.fourDigits c

/-- A string in quotes. -/
def quoted (s : String) : List Char := '"' :: (s.toList.flatMap escaped ++ ['"'])

/-- Decimal text of a number. -/
def numberText : Number → List Char
  | .int i => i.repr.toList
  | .float x => Decimal.positional.text x

/-! ## The compact layout -/

mutual

/-- The value without blanks. -/
def compactChars : Json → List Char
  | .null => "null".toList
  | .bool true => "true".toList
  | .bool false => "false".toList
  | .num n => numberText n
  | .str s => quoted s
  | .arr [] => ['[', ']']
  | .arr (v :: rest) => '[' :: (compactChars v ++ compactItems rest)
  | .obj [] => ['{', '}']
  | .obj ((k, v) :: rest) =>
    '{' :: (quoted k ++ ':' :: (compactChars v ++ compactMembers rest))

/-- The items after the first and the closing bracket. -/
def compactItems : List Json → List Char
  | [] => [']']
  | v :: rest => ',' :: (compactChars v ++ compactItems rest)

/-- The members after the first and the closing brace. -/
def compactMembers : List (String × Json) → List Char
  | [] => ['}']
  | (k, v) :: rest => ',' :: (quoted k ++ ':' :: (compactChars v ++ compactMembers rest))

end

/-- The compact text of a value. -/
def compact (v : Json) : String := String.ofList v.compactChars

/-! ## The indented layout -/

/-- A line break and the indentation of a level. -/
def newline (level : Nat) : List Char := '\n' :: List.replicate (2 * level) ' '

mutual

/-- The value laid out over lines, its own lines indented by `level`. -/
def indentedChars (level : Nat) : Json → List Char
  | .null => "null".toList
  | .bool true => "true".toList
  | .bool false => "false".toList
  | .num n => numberText n
  | .str s => quoted s
  | .arr [] => ['[', ']']
  | .arr (v :: rest) =>
    '[' :: (newline (level + 1) ++ indentedChars (level + 1) v ++ indentedItems level rest)
  | .obj [] => ['{', '}']
  | .obj ((k, v) :: rest) =>
    '{' :: (newline (level + 1) ++ quoted k ++ ':' :: ' ' ::
      (indentedChars (level + 1) v ++ indentedMembers level rest))

/-- The items after the first and the closing bracket. -/
def indentedItems (level : Nat) : List Json → List Char
  | [] => newline level ++ [']']
  | v :: rest =>
    ',' :: (newline (level + 1) ++ indentedChars (level + 1) v ++ indentedItems level rest)

/-- The members after the first and the closing brace. -/
def indentedMembers (level : Nat) : List (String × Json) → List Char
  | [] => newline level ++ ['}']
  | (k, v) :: rest =>
    ',' :: (newline (level + 1) ++ quoted k ++ ':' :: ' ' ::
      (indentedChars (level + 1) v ++ indentedMembers level rest))

end

/-- The indented text of a value. -/
def indented (v : Json) : String := String.ofList (indentedChars 0 v)

end Json

end PayloadRules
