import PayloadRules.Json.Raw
import PayloadRules.Json.Token

/-!
# Reading JSON

Tokens are read from left to right by a machine whose state is the stack of
containers that are open and what may come next. The machine takes every token
once, so reading ends with the text.

`Raw.parse?` accepts exactly one value with blanks around it. It refuses a comma
before a closing bracket, a member without a name and a container left open.
`Json.parse?` also refuses what denotes no value, and containers nested deeper
than `depthLimit`; `Json.parseAs?` does so only in the parts that count.
-/

namespace PayloadRules

namespace Json

namespace Reader

/-- An open container, its complete parts last one first: an array, an object
between two members, or one with a member being read. -/
inductive Frame where
  | array (items : List Raw)
  | object (members : List (Option String × Raw))
  | member (members : List (Option String × Raw)) (name : Option String)

/-- What may come next. -/
inductive Expected where
  | value
  | valueOrClose
  | name
  | nameOrClose
  | colon
  | separator
deriving DecidableEq, Repr

/-- Reading inside the open containers, or one complete value. -/
inductive State where
  | reading (stack : List Frame) (next : Expected)
  | finished (value : Raw)

/-- Puts a complete value where it belongs. -/
def complete (r : Raw) : List Frame → Option State
  | [] => some (.finished r)
  | .array items :: rest => some (.reading (.array (r :: items) :: rest) .separator)
  | .member members name :: rest =>
    some (.reading (.object ((name, r) :: members) :: rest) .separator)
  | .object _ :: _ => none

/-- A token where a value may stand. -/
def startValue (stack : List Frame) : Token → Option State
  | .scalar v => complete (.scalar v) stack
  | .text s => complete (.scalar (s.map .str)) stack
  | .openArray => some (.reading (.array [] :: stack) .valueOrClose)
  | .openObject => some (.reading (.object [] :: stack) .nameOrClose)
  | _ => none

/-- A token where a member name may stand. -/
def startMember : List Frame → Token → Option State
  | .object members :: rest, .text name => some (.reading (.member members name :: rest) .colon)
  | _, _ => none

/-- A closing token, which must fit the innermost container. -/
def close : List Frame → Token → Option State
  | .array items :: rest, .closeArray => complete (.arr items.reverse) rest
  | .object members :: rest, .closeObject => complete (.obj members.reverse) rest
  | _, _ => none

/-- A comma, after which the innermost container goes on. -/
def goOn : List Frame → Option State
  | .array items :: rest => some (.reading (.array items :: rest) .value)
  | .object members :: rest => some (.reading (.object members :: rest) .name)
  | _ => none

/-- One token. -/
def step (s : State) (t : Token) : Option State :=
  match s with
  | .finished _ => none
  | .reading stack next =>
    match next, t with
    | .value, t => startValue stack t
    | .valueOrClose, .closeArray => close stack t
    | .valueOrClose, t => startValue stack t
    | .name, t => startMember stack t
    | .nameOrClose, .closeObject => close stack t
    | .nameOrClose, t => startMember stack t
    | .colon, .colon => some (.reading stack .value)
    | .colon, _ => none
    | .separator, .comma => goOn stack
    | .separator, t => close stack t

/-- What has been read after the last token. -/
def result : State → Option Raw
  | .finished r => some r
  | .reading _ _ => none

end Reader

/-- What tokens spell. -/
def Raw.ofTokens? (ts : List Token) : Option Raw :=
  (ts.foldlM Reader.step (.reading [] .value)).bind Reader.result

/-- What a text spells. -/
def Raw.parse? (text : String) : Option Raw := (tokens? text.toList).bind Raw.ofTokens?

/-- The value that a text spells, object members as written. -/
def parse? (text : String) : Option Json := (Raw.parse? text).bind (Raw.value? depthLimit)

/-- Reads the value that a text spells, of which only the selected parts count. -/
def parseAs? {α : Type} (s : Selection) (read : Json → Option α) (text : String) : Option α := do
  read (← ((← Raw.parse? text).select s).value? depthLimit)

theorem parseAs?_whole {α : Type} (read : Json → Option α) (text : String) :
    parseAs? .whole read text = (parse? text).bind read := by
  simp only [parseAs?, parse?, Raw.select_whole, Option.bind_eq_bind, Option.bind_assoc]

end Json

end PayloadRules
