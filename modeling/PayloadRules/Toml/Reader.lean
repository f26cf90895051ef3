import PayloadRules.Toml.Scalar
import PayloadRules.Toml.Text
import PayloadRules.Toml.Value

/-!
# Reading TOML

A document is a sequence of lines: blank ones, comments, headers and
assignments. Readers answer what they read and the rest of the text. Those that
read parts of unknown number take a bound on the number of steps; every step
takes at least one character or opens a value that does, so the bound of
`parse?`, three steps a character, is never reached.

Values nest, and dotted keys run, to fewer than `depthLimit` levels.
-/

namespace PayloadRules

namespace Toml

/-- Levels of nesting that are too many. -/
def depthLimit : Nat := 80

/-! ## Blanks and comments -/

/-- The text without blanks in front. -/
def skipBlanks (cs : List Char) : List Char := cs.dropWhile fun c => c == ' ' || c == '\t'

/-- What follows a comment, up to the end of its line. -/
def skipComment : List Char → List Char
  | '#' :: rest => rest.dropWhile Text.isPlain
  | cs => cs

/-- What follows a line break. -/
def lineBreak? : List Char → Option (List Char)
  | '\n' :: rest => some rest
  | '\r' :: '\n' :: rest => some rest
  | _ => none

/-- What follows the end of a line: blanks, a comment, and a line break or the
end of the text. -/
def lineEnd? (cs : List Char) : Option (List Char) :=
  match skipComment (skipBlanks cs) with
  | [] => some []
  | rest => lineBreak? rest

/-- The text without blanks, comments and line breaks in front. A comment has to
end in a line break. -/
def skipLines : Nat → List Char → Option (List Char)
  | 0, _ => none
  | steps + 1, cs =>
    match skipBlanks cs with
    | '#' :: rest => do skipLines steps (← lineBreak? (skipComment ('#' :: rest)))
    | rest =>
      match lineBreak? rest with
      | some more => skipLines steps more
      | none => some rest

/-! ## Keys -/

def isBareKeyChar (c : Char) : Bool := c.isAlphanum || c == '_' || c == '-'

/-- One part of a key: bare, or in quotes of one line. -/
def simpleKey? : List Char → Option (String × List Char)
  | '"' :: rest => (Text.basic? rest).map fun (cs, tail) => (String.ofList cs, tail)
  | '\'' :: rest => (Text.literal? rest).map fun (cs, tail) => (String.ofList cs, tail)
  | cs =>
    let bare := cs.takeWhile isBareKeyChar
    if bare.isEmpty then none else some (String.ofList bare, cs.dropWhile isBareKeyChar)

/-- A key with blanks around it and around its points: the parts before the last
one, and the last one. -/
def key? : Nat → List Char → Option ((List String × String) × List Char)
  | 0, _ => none
  | steps + 1, cs => do
    let (first, rest) ← simpleKey? (skipBlanks cs)
    match skipBlanks rest with
    | '.' :: more =>
      let ((path, last), tail) ← key? steps more
      return ((first :: path, last), tail)
    | tail => return (([], first), tail)

/-- A key that is not too long. -/
def boundedKey? (steps : Nat) (cs : List Char) : Option ((List String × String) × List Char) := do
  let ((path, last), rest) ← key? steps cs
  if path.length + 1 < depthLimit then some ((path, last), rest) else none

/-! ## Values -/

mutual

/-- A value inside `depth` others. -/
def value? : Nat → Nat → List Char → Option (Value × List Char)
  | 0, _, _ => none
  | steps + 1, depth, cs =>
    match cs with
    | '[' :: rest => do
      if depth + 1 < depthLimit then
        let (items, tail) ← items? steps (depth + 1) (← skipLines (rest.length + 1) rest)
        return (.array items, tail)
      else none
    | '{' :: rest =>
      if depth + 1 < depthLimit then
        match skipBlanks rest with
        | '}' :: tail => some (.table .inline [], tail)
        | body => do
          let (entries, tail) ← members? steps (depth + 1) [] body
          return (.table .inline entries, tail)
      else none
    | cs =>
      match cs with
      | '"' :: _ | '\'' :: _ =>
        (Text.string? cs).map fun (s, tail) => (.text (String.ofList s), tail)
      | _ =>
        match Moment.ofChars? cs with
        | some (m, tail) => some (.moment m, tail)
        | none => (Scalar.rest? cs).map fun tail => (.scalar, tail)

/-- The items of an array up to its closing bracket, at the next of them. -/
def items? : Nat → Nat → List Char → Option (List Value × List Char)
  | 0, _, _ => none
  | _ + 1, _, ']' :: tail => some ([], tail)
  | steps + 1, depth, cs => do
    let (first, rest) ← value? steps depth cs
    match ← skipLines (rest.length + 1) rest with
    | ',' :: more =>
      let (others, tail) ← items? steps depth (← skipLines (more.length + 1) more)
      return (first :: others, tail)
    | ']' :: tail => return ([first], tail)
    | _ => none

/-- The members of an inline table up to its closing brace, added to those
already read. -/
def members? : Nat → Nat → Entries → List Char → Option (Entries × List Char)
  | 0, _, _, _ => none
  | steps + 1, depth, entries, cs => do
    let ((path, key), rest) ← boundedKey? (cs.length + 1) cs
    match rest with
    | '=' :: more =>
      let (v, rest) ← value? steps depth (skipBlanks more)
      let entries ← entries.add path key v
      match skipBlanks rest with
      | ',' :: more => members? steps depth entries more
      | '}' :: tail => return (entries, tail)
      | _ => none
    | _ => none

end

/-! ## Documents -/

/-- A line that is neither blank nor a comment, its end included. -/
def statement? (cs : List Char) : Option (Statement × List Char) :=
  match cs with
  | '[' :: '[' :: rest => do
    let ((path, key), rest) ← boundedKey? (rest.length + 1) rest
    match rest with
    | ']' :: ']' :: tail => return (.arrayHeader path key, ← lineEnd? tail)
    | _ => none
  | '[' :: rest => do
    let ((path, key), rest) ← boundedKey? (rest.length + 1) rest
    match rest with
    | ']' :: tail => return (.header path key, ← lineEnd? tail)
    | _ => none
  | cs => do
    let ((path, key), rest) ← boundedKey? (cs.length + 1) cs
    match rest with
    | '=' :: more =>
      let (v, tail) ← value? (3 * more.length + 3) 0 (skipBlanks more)
      return (.assign path key v, ← lineEnd? tail)
    | _ => none

/-- The statements of a document. -/
def statements? : Nat → List Char → Option (List Statement)
  | 0, _ => none
  | steps + 1, cs =>
    match skipBlanks cs with
    | [] => some []
    | '#' :: rest => do statements? steps (← lineEnd? ('#' :: rest))
    | rest =>
      match lineBreak? rest with
      | some more => statements? steps more
      | none => do
        let (first, more) ← statement? rest
        return first :: (← statements? steps more)

/-- The entries of the document that a text spells. A byte order mark in front
does not count. -/
def parse? (text : String) : Option Entries := do
  let cs := match text.toList with
    | '\ufeff' :: rest => rest
    | cs => cs
  ofStatements? (← statements? (cs.length + 1) cs)

end Toml

end PayloadRules
