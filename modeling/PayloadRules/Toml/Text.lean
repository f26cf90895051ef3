import PayloadRules.Text.Digit
import PayloadRules.Text.Escape

/-!
# TOML strings

Strings stand in double or in single quotes, on one line in single quotes of
either kind or over lines in three of them. Double quotes know escapes, single
ones do not. Control characters other than the tab stand in no string; a line
break is a line feed, with a carriage return before it or not, and is read as a
line feed. A line break right after three opening quotes does not count.

Readers start after the opening quotes and answer the characters of the string
and what follows its closing quotes.
-/

namespace PayloadRules

namespace Toml

namespace Text

/-- Characters that may stand for themselves. -/
def isPlain (c : Char) : Bool := c = '\t' || (0x20 ≤ c.toNat && c.toNat ≠ 0x7F)

/-- The character with the number that hexadecimal digits spell. -/
def codePoint? (ds : List Char) : Option Char := do
  let n ← ds.foldlM (fun n c => (Text.digitValue? 16 c).map (n * 16 + ·)) 0
  if n.isValidChar then some (Char.ofNat n) else none

/-- The character an escape letter stands for. -/
def letter? (c : Char) : Option Char := Text.EscapeLetters.common.char? c

/-- Puts a character in front of a string being read. -/
def push (c : Char) (read : Option (List Char × List Char)) : Option (List Char × List Char) :=
  read.map fun (cs, rest) => (c :: cs, rest)

/-- One line in double quotes. -/
def basic? : List Char → Option (List Char × List Char)
  | '"' :: rest => some ([], rest)
  | '\\' :: 'u' :: a :: b :: c :: d :: rest => do push (← codePoint? [a, b, c, d]) (basic? rest)
  | '\\' :: 'U' :: a :: b :: c :: d :: e :: f :: g :: h :: rest => do
    push (← codePoint? [a, b, c, d, e, f, g, h]) (basic? rest)
  | '\\' :: c :: rest => do push (← letter? c) (basic? rest)
  | c :: rest => if isPlain c then push c (basic? rest) else none
  | [] => none

/-- One line in single quotes. -/
def literal? : List Char → Option (List Char × List Char)
  | '\'' :: rest => some ([], rest)
  | c :: rest => if isPlain c then push c (literal? rest) else none
  | [] => none

/-- Where a string over lines in double quotes stands: in its text, behind a
backslash that has to end its line, or in the blanks such a line end skips. -/
inductive Fold where
  | none
  | lineEnd
  | skipped
deriving DecidableEq, Repr

/-- Lines in double quotes. Up to two quotes may stand right before the closing
ones. -/
def basicLines? : Fold → List Char → Option (List Char × List Char)
  | .lineEnd, '\n' :: rest => basicLines? .skipped rest
  | .lineEnd, '\r' :: '\n' :: rest => basicLines? .skipped rest
  | .lineEnd, c :: rest => if c = ' ' ∨ c = '\t' then basicLines? .lineEnd rest else Option.none
  | _, '"' :: '"' :: '"' :: '"' :: '"' :: rest => some (['"', '"'], rest)
  | _, '"' :: '"' :: '"' :: '"' :: rest => some (['"'], rest)
  | _, '"' :: '"' :: '"' :: rest => some ([], rest)
  | _, '\\' :: 'u' :: a :: b :: c :: d :: rest => do
    push (← codePoint? [a, b, c, d]) (basicLines? .none rest)
  | _, '\\' :: 'U' :: a :: b :: c :: d :: e :: f :: g :: h :: rest => do
    push (← codePoint? [a, b, c, d, e, f, g, h]) (basicLines? .none rest)
  | _, '\\' :: '\n' :: rest => basicLines? .skipped rest
  | _, '\\' :: '\r' :: '\n' :: rest => basicLines? .skipped rest
  | _, '\\' :: c :: rest =>
    if c = ' ' ∨ c = '\t' then basicLines? .lineEnd rest
    else do push (← letter? c) (basicLines? .none rest)
  | fold, '\r' :: '\n' :: rest =>
    if fold = .skipped then basicLines? .skipped rest else push '\n' (basicLines? .none rest)
  | fold, c :: rest =>
    if fold = .skipped ∧ (c = ' ' ∨ c = '\t' ∨ c = '\n') then basicLines? .skipped rest
    else if isPlain c ∨ c = '\n' then push c (basicLines? .none rest)
    else Option.none
  | _, [] => Option.none

/-- Lines in single quotes. Up to two quotes may stand right before the closing
ones. -/
def literalLines? : List Char → Option (List Char × List Char)
  | '\'' :: '\'' :: '\'' :: '\'' :: '\'' :: rest => some (['\'', '\''], rest)
  | '\'' :: '\'' :: '\'' :: '\'' :: rest => some (['\''], rest)
  | '\'' :: '\'' :: '\'' :: rest => some ([], rest)
  | '\r' :: '\n' :: rest => push '\n' (literalLines? rest)
  | c :: rest => if isPlain c ∨ c = '\n' then push c (literalLines? rest) else none
  | [] => none

/-- The text without a line break in front. -/
def dropLineBreak : List Char → List Char
  | '\n' :: rest => rest
  | '\r' :: '\n' :: rest => rest
  | cs => cs

/-- A string with its quotes; `none` when the text starts with no quote. -/
def string? : List Char → Option (List Char × List Char)
  | '"' :: '"' :: '"' :: rest => basicLines? .none (dropLineBreak rest)
  | '"' :: rest => basic? rest
  | '\'' :: '\'' :: '\'' :: rest => literalLines? (dropLineBreak rest)
  | '\'' :: rest => literal? rest
  | _ => none

end Text

end Toml

end PayloadRules
