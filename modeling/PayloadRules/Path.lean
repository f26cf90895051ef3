/-!
# Field paths

A path lists the names from the top of a payload down to one of its fields; the
segment `*` stands for any index of an array. The key of a path joins its
segments with points, and keys are what rules and labels are filed under.
-/

namespace PayloadRules

/-- The segments from the top of a payload to a field. -/
structure Path where
  segments : List String
deriving DecidableEq, Repr

namespace Path

/-- The segment that stands for any index. -/
def anyIndex : String := "*"

/-- Joins segments with points. -/
def join (segments : List String) : String := ".".intercalate segments

/-- The path above all top-level fields. -/
def root : Path := ⟨[]⟩

/-- Whether the path is the root. -/
def isRoot (p : Path) : Bool := p.segments.isEmpty

/-- One segment further down. -/
def child (p : Path) (segment : String) : Path := ⟨p.segments ++ [segment]⟩

/-- Down into any item of an array. -/
def wildcard (p : Path) : Path := p.child anyIndex

/-- The segments joined with points. -/
def key (p : Path) : String := join p.segments

/-- Whether the path runs through any item of an array. -/
def hasWildcard (p : Path) : Bool := p.segments.contains anyIndex

/-- Key of the segments above the first array item. -/
def beforeWildcard (p : Path) : String := join (p.segments.takeWhile (· != anyIndex))

end Path

end PayloadRules
