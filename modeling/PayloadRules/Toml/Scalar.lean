import PayloadRules.Decimal.Binary64
import PayloadRules.Text.Digit

/-!
# TOML numbers and truth values

As far as this library needs them: whether a text starts with one, and what
follows it. Numbers may hold underscores between digits. An integer must fit
sixty-four bits with sign, and a float must not be beyond the largest number.
-/

namespace PayloadRules

namespace Toml

namespace Scalar

/-! ## Digits -/

/-- The digits that go on after a digit, single underscores before them allowed,
and what follows the last one. -/
def moreDigits (base : Nat) : List Char → List Nat × List Char
  | [] => ([], [])
  | '_' :: c :: rest =>
    match Text.digitValue? base c with
    | some d => let (ds, tail) := moreDigits base rest; (d :: ds, tail)
    | none => ([], '_' :: c :: rest)
  | c :: rest =>
    match Text.digitValue? base c with
    | some d => let (ds, tail) := moreDigits base rest; (d :: ds, tail)
    | none => ([], c :: rest)

/-- At least one digit. -/
def digits? (base : Nat) : List Char → Option (List Nat × List Char)
  | [] => none
  | c :: rest =>
    (Text.digitValue? base c).map fun d => let (ds, tail) := moreDigits base rest; (d :: ds, tail)

/-- Decimal digits without a superfluous zero in front: a zero stands alone. -/
def decimal? : List Char → Option (List Nat × List Char)
  | '0' :: rest => some ([0], rest)
  | cs => digits? 10 cs

/-- Whether a sign was read, and what follows it. -/
def sign : List Char → Option Bool × List Char
  | '-' :: rest => (some true, rest)
  | '+' :: rest => (some false, rest)
  | cs => (none, cs)

/-! ## Integers and floats -/

/-- The first natural number that sixty-four bits with sign do not hold. -/
def signedLimit : Nat := UInt64.size / 2

/-- What follows an integer. -/
def integer? (cs : List Char) : Option (List Char) :=
  let based (base : Nat) (rest : List Char) : Option (List Char) := do
    let (ds, tail) ← digits? base rest
    if Text.ofDigits base ds < signedLimit then some tail else none
  match cs with
  | '0' :: 'x' :: rest => based 16 rest
  | '0' :: 'o' :: rest => based 8 rest
  | '0' :: 'b' :: rest => based 2 rest
  | cs => do
    let (mark, unsigned) := sign cs
    let (ds, tail) ← decimal? unsigned
    let n := Text.ofDigits 10 ds
    if n < signedLimit ∨ (mark = some true ∧ n = signedLimit) then some tail else none

/-- Whether digits times a power of ten stay within the range of floats. -/
def inRange (ds : List Nat) (e : Int) : Bool :=
  let kept := ds.dropWhile (· == 0)
  let top := (kept.length : Int) + e
  if kept.isEmpty ∨ top ≤ 300 then true
  else if 320 < top then false
  else
    let power := Decimal.power 10 e
    (Binary64.nearest (Text.ofDigits 10 kept * power.1) power.2).isSome

/-- An exponent, and what follows it. -/
def exponent? : List Char → Option (Int × List Char)
  | c :: rest =>
    if c = 'e' ∨ c = 'E' then do
      let (mark, unsigned) := sign rest
      let (ds, tail) ← digits? 10 unsigned
      let n : Int := Text.ofDigits 10 ds
      return (if mark = some true then -n else n, tail)
    else none
  | [] => none

/-- What follows a float. -/
def float? (cs : List Char) : Option (List Char) :=
  let (mark, unsigned) := sign cs
  match unsigned with
  | 'i' :: 'n' :: 'f' :: rest => some rest
  | 'n' :: 'a' :: 'n' :: rest => some rest
  | _ => do
    let (whole, rest) ← decimal? unsigned
    let finish (fraction : List Nat) (e : Int) (tail : List Char) : Option (List Char) :=
      if mark = some true ∨ inRange (whole ++ fraction) (e - fraction.length) then some tail
      else none
    match rest with
    | '.' :: more =>
      let (fraction, rest) ← digits? 10 more
      match exponent? rest with
      | some (e, tail) => finish fraction e tail
      | none => finish fraction 0 rest
    | _ =>
      let (e, tail) ← exponent? rest
      finish [] e tail

/-! ## Scalars -/

/-- What follows a truth value or a number. -/
def rest? : List Char → Option (List Char)
  | 't' :: 'r' :: 'u' :: 'e' :: rest => some rest
  | 'f' :: 'a' :: 'l' :: 's' :: 'e' :: rest => some rest
  | cs => float? cs <|> integer? cs

end Scalar

end Toml

end PayloadRules
