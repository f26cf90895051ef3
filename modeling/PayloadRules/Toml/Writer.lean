import PayloadRules.Text.Escape

/-!
# Writing TOML

Strings are written on one line in double quotes. Keys are written bare when
they may be, otherwise like strings. A table is its header with its assignments
below, one a line, and a blank line in front.
-/

namespace PayloadRules

namespace Toml

/-- A character inside double quotes. -/
def escaped (c : Char) : List Char :=
  Text.escape Text.EscapeLetters.common (fun c => c.toNat < 0x20 ∨ c.toNat = 0x7F)
    Text.fourDigits c

/-- A string in double quotes. -/
def quoted (s : String) : String := String.ofList ('"' :: (s.toList.flatMap escaped ++ ['"']))

/-- Whether a key may stand without quotes. -/
def isBare (key : String) : Bool :=
  key ≠ "" && key.toList.all fun c => c.isAlphanum || c == '_' || c == '-'

/-- A key, in quotes if need be. -/
def keyText (key : String) : String := if isBare key then key else quoted key

/-- An assignment of a string, with its line break. -/
def assignment (key value : String) : String := keyText key ++ " = " ++ quoted value ++ "\n"

/-- A table of strings with its header, given the keys of its path. -/
def tableText (path : List String) (entries : List (String × String)) : String :=
  "\n[" ++ ".".intercalate (path.map keyText) ++ "]\n"
    ++ String.join (entries.map fun e => assignment e.1 e.2)

end Toml

end PayloadRules
