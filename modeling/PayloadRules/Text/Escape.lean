/-!
# Escapes

Inside quotes a backslash and a letter stand for a character that may not or
should not be written by itself. The letters of a format are a table, which
reading looks up one way and writing the other way. A character that needs an
escape and has no letter is written by its number.
-/

namespace PayloadRules

namespace Text

/-- Letters with the characters they stand for. -/
abbrev EscapeLetters := List (Char × Char)

namespace EscapeLetters

/-- The letters that most formats know: quote, backslash and five controls. -/
def common : EscapeLetters :=
  [('"', '"'), ('\\', '\\'), ('b', '\x08'), ('f', '\x0c'), ('n', '\n'), ('r', '\r'), ('t', '\t')]

/-- The character a letter stands for. -/
def char? (letters : EscapeLetters) (letter : Char) : Option Char := letters.lookup letter

/-- The letter that stands for a character. -/
def letter? (letters : EscapeLetters) (c : Char) : Option Char :=
  (letters.find? fun e => e.2 = c).map Prod.fst

end EscapeLetters

/-- The number of a character below U+0100 as four hexadecimal digits. -/
def fourDigits (c : Char) : List Char :=
  ['\\', 'u', '0', '0', Nat.digitChar (c.toNat / 16), Nat.digitChar (c.toNat % 16)]

/-- A character as it stands inside quotes: by its letter, else by its number if it
needs an escape, else by itself. -/
def escape (letters : EscapeLetters) (needsNumber : Char → Bool) (number : Char → List Char)
    (c : Char) : List Char :=
  match letters.letter? c with
  | some letter => ['\\', letter]
  | none => if needsNumber c then number c else [c]

end Text

end PayloadRules
