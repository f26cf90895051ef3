import PayloadRules.NameSet
import PayloadRules.Request.DeclaredType
import PayloadRules.Schema.Basic

/-!
# Requests

A request is a named payload: its fields in order, each with a static type and
usually a schema, and the names that must be present at its top. Some of those
names it lists itself, others come from the fragments it includes, which may
include fragments in turn.
-/

namespace PayloadRules

/-- One field of a request. A field without a schema is not compiled. -/
structure Field where
  name : String
  declared : DeclaredType
  schema : Option Schema := none
  binding : Option Binding := none

/-- A named list of required names that requests and other fragments include. -/
inductive Fragment where
  | mk (name : String) (required : Option (List String)) (includes : List Fragment)

namespace Fragment

/-- What holds of a fragment when it holds of those it includes holds of every fragment. -/
theorem includes_induction {P : Fragment → Prop}
    (step : ∀ name required includes, (∀ g ∈ includes, P g) → P (mk name required includes)) :
    ∀ f : Fragment, P f
  | mk name required includes =>
    step name required includes fun g _ => includes_induction step g

end Fragment

/-- A named payload. -/
structure Request where
  name : String
  includes : List Fragment := []
  required : Option (List String) := none
  fields : List Field := []

/-! ## Required names -/

mutual

/-- The names a fragment requires: those of the fragments it includes, depth
first, then its own. -/
def Fragment.requiredSet : Fragment → NameSet
  | .mk _ required includes =>
    (requiredOfAll NameSet.empty includes).union (NameSet.ofDeclared required)

/-- Adds the names of fragments from left to right. -/
def requiredOfAll (names : NameSet) : List Fragment → NameSet
  | [] => names
  | f :: rest => requiredOfAll (names.union f.requiredSet) rest

end

/-- The names required at the top of a request: those of its fragments, then its
own. -/
def Request.requiredSet (r : Request) : NameSet :=
  (requiredOfAll NameSet.empty r.includes).union (NameSet.ofDeclared r.required)

end PayloadRules
