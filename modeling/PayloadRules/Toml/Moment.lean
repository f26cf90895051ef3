import PayloadRules.Text.Digit

/-!
# TOML dates and times

A moment is a date, a time of day, or both, the last with an offset from
universal time or without one. Every date exists, February the twenty-ninth in
leap years only, and every time is on the clock, which may show a sixtieth
second.

A moment may be written in several ways and has one text: a `T` between date and
time, nine digits of the fraction at most and no zero at its end, `Z` for
universal time, and a plus sign for no distance from it.

Readers answer what they read and the rest of the text.
-/

namespace PayloadRules

namespace Toml

structure Date where
  year : Nat
  month : Nat
  day : Nat
deriving DecidableEq, Repr

structure TimeOfDay where
  hour : Nat
  minute : Nat
  second : Nat
  /-- The digits of the fraction of a second that count. -/
  fraction : List Char
deriving DecidableEq, Repr

/-- Distance from universal time. -/
inductive Offset where
  | universal
  | minutes (count : Int)
deriving DecidableEq, Repr

/-- A date, a time of day, or both. -/
inductive Moment where
  | date (date : Date)
  | time (time : TimeOfDay)
  | both (date : Date) (time : TimeOfDay) (offset : Option Offset)
deriving DecidableEq, Repr

/-! ## Reading -/

/-- A number of exactly `count` digits within bounds. -/
def boundedNumber? (count least greatest : Nat) (cs : List Char) : Option (Nat × List Char) :=
  let ds := cs.take count
  if ds.length = count ∧ ds.all Char.isDigit then
    let n := Text.ofDigits 10 (ds.filterMap (Text.digitValue? 10))
    if least ≤ n ∧ n ≤ greatest then some (n, cs.drop count) else none
  else none

/-- What follows a character. -/
def expect? (c : Char) : List Char → Option (List Char)
  | d :: rest => if d = c then some rest else none
  | [] => none

namespace Date

def isLeapYear (year : Nat) : Bool := year % 4 = 0 ∧ (year % 100 ≠ 0 ∨ year % 400 = 0)

def daysIn (year month : Nat) : Nat :=
  if month = 2 then (if isLeapYear year then 29 else 28)
  else if month ∈ [4, 6, 9, 11] then 30
  else 31

def ofChars? (cs : List Char) : Option (Date × List Char) := do
  let (year, cs) ← boundedNumber? 4 0 9999 cs
  let (month, cs) ← boundedNumber? 2 1 12 (← expect? '-' cs)
  let (day, cs) ← boundedNumber? 2 1 (daysIn year month) (← expect? '-' cs)
  return (⟨year, month, day⟩, cs)

end Date

namespace TimeOfDay

/-- The digits of a fraction that count: nine at most, without zeros at the end. -/
def countedDigits (ds : List Char) : List Char :=
  ((ds.take 9).reverse.dropWhile (· == '0')).reverse

/-- The digits of a fraction, which are none without a point and a digit. -/
def takeFraction : List Char → List Char × List Char
  | '.' :: c :: rest =>
    if c.isDigit then (c :: rest.takeWhile Char.isDigit, rest.dropWhile Char.isDigit)
    else ([], '.' :: c :: rest)
  | cs => ([], cs)

def ofChars? (cs : List Char) : Option (TimeOfDay × List Char) := do
  let (hour, cs) ← boundedNumber? 2 0 23 cs
  let (minute, cs) ← boundedNumber? 2 0 59 (← expect? ':' cs)
  let (second, cs) ← boundedNumber? 2 0 60 (← expect? ':' cs)
  let (ds, cs) := takeFraction cs
  return (⟨hour, minute, second, countedDigits ds⟩, cs)

end TimeOfDay

/-- An offset, or none when the text starts with no offset. -/
def Offset.ofChars? (cs : List Char) : Option (Option Offset × List Char) :=
  match cs with
  | c :: rest =>
    if c = 'Z' ∨ c = 'z' then some (some .universal, rest)
    else if c = '+' ∨ c = '-' then do
      let (hour, cs) ← boundedNumber? 2 0 23 rest
      let (minute, cs) ← boundedNumber? 2 0 59 (← expect? ':' cs)
      let count : Int := hour * 60 + minute
      return (some (.minutes (if c = '-' then -count else count)), cs)
    else some (none, cs)
  | [] => some (none, [])

/-- A date, a time, or both with or without an offset. -/
def Moment.ofChars? (cs : List Char) : Option (Moment × List Char) :=
  match Date.ofChars? cs with
  | none => (TimeOfDay.ofChars? cs).map fun (t, tail) => (.time t, tail)
  | some (d, rest) =>
    match rest with
    | c :: more =>
      if c = 'T' ∨ c = 't' ∨ c = ' ' then
        match TimeOfDay.ofChars? more with
        | some (t, tail) => (Offset.ofChars? tail).map fun (o, tail) => (.both d t o, tail)
        | none => if c = ' ' then some (.date d, rest) else none
      else some (.date d, rest)
    | [] => some (.date d, [])

/-! ## Text -/

/-- A number with zeros in front up to a width. -/
def padded (width n : Nat) : String := String.ofList (n.repr.toList.leftpad width '0')

def Date.text (d : Date) : String :=
  padded 4 d.year ++ "-" ++ padded 2 d.month ++ "-" ++ padded 2 d.day

def TimeOfDay.text (t : TimeOfDay) : String :=
  padded 2 t.hour ++ ":" ++ padded 2 t.minute ++ ":" ++ padded 2 t.second
    ++ if t.fraction.isEmpty then "" else "." ++ String.ofList t.fraction

def Offset.text : Offset → String
  | .universal => "Z"
  | .minutes count =>
    (if count < 0 then "-" else "+")
      ++ padded 2 (count.natAbs / 60) ++ ":" ++ padded 2 (count.natAbs % 60)

/-- The one text of a moment. -/
def Moment.text : Moment → String
  | .date d => d.text
  | .time t => t.text
  | .both d t offset => d.text ++ "T" ++ t.text ++ (offset.map Offset.text).getD ""

end Toml

end PayloadRules
