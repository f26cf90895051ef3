import PayloadRules.Text.Escape
import PayloadRules.Text.Invisible

/-!
# Strings for diagnosis

A string is shown in double quotes so that every character can be told from its
looks: quotes and backslashes are escaped, the usual controls by a letter, other
characters without a look of their own by their number in hexadecimal digits
between braces.
-/

namespace PayloadRules

namespace Text

/-- The escape letters: those of the quote, the backslash and the usual controls. -/
def debugLetters : EscapeLetters :=
  [('"', '"'), ('\\', '\\'), ('n', '\n'), ('r', '\r'), ('t', '\t'), ('0', '\x00')]

/-- The number of a character between braces, as few digits as it has. -/
def bracedNumber (c : Char) : List Char :=
  '\\' :: 'u' :: '\x7b' :: (Nat.toDigits 16 c.toNat ++ ['\x7d'])

/-- A character as it stands inside the quotes. -/
def debugEscaped (c : Char) : List Char :=
  escape debugLetters isInvisible bracedNumber c

/-- A string in quotes. -/
def debugQuoted (s : String) : String :=
  String.ofList ('"' :: (s.toList.flatMap debugEscaped ++ ['"']))

end Text

end PayloadRules
