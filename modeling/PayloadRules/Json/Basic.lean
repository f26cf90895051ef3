import PayloadRules.Decimal.Literal
import PayloadRules.Table

/-!
# JSON values

An object is the list of its members as written: their order is part of the
value, and a name may occur more than once until `unique` settles which member
counts. The last member of a name gives the value and the first one the place.

`same` is equality of settled values up to the order of members.
-/

namespace PayloadRules

/-- A JSON value, object members in written order. -/
inductive Json where
  | null
  | bool (value : Bool)
  | num (value : Number)
  | str (value : String)
  | arr (items : List Json)
  | obj (members : List (String × Json))
deriving Repr, Inhabited

namespace Json

/-! ## One member per name -/

mutual

/-- The value with every object settled, at any depth. -/
def unique : Json → Json
  | .arr items => .arr (uniqueItems items)
  | .obj members => .obj (Table.ofLatest (uniqueMembers members)).entries
  | .str s => .str s
  | .num n => .num n
  | .bool b => .bool b
  | .null => .null

def uniqueItems : List Json → List Json
  | [] => []
  | v :: rest => unique v :: uniqueItems rest

def uniqueMembers : List (String × Json) → List (String × Json)
  | [] => []
  | (k, v) :: rest => (k, unique v) :: uniqueMembers rest

end

/-! ## Equality up to the order of members -/

mutual

/-- Equality of settled values, numbers by `Number.same`, objects by their
members in any order. -/
def same : Json → Json → Bool
  | .obj ms, .obj ns => ms.length == ns.length && sameMembers ms ns
  | .arr xs, .arr ys => sameItems xs ys
  | .str a, .str b => a == b
  | .num a, .num b => a.same b
  | .bool a, .bool b => a == b
  | .null, .null => true
  | _, _ => false

def sameItems : List Json → List Json → Bool
  | [], [] => true
  | x :: xs, y :: ys => same x y && sameItems xs ys
  | _, _ => false

/-- Every member on the left has its equal on the right. -/
def sameMembers : List (String × Json) → List (String × Json) → Bool
  | [], _ => true
  | (k, v) :: rest, ns =>
    (match ns.lookup k with
      | some w => same v w
      | none => false) && sameMembers rest ns

end

end Json

end PayloadRules
