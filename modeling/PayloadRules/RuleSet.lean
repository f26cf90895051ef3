import PayloadRules.Json.Members
import PayloadRules.Position
import PayloadRules.Rule.List

/-!
# Rule sets

A rule set files one rule list under the key of each position of a schema. Two
positions may share a key, since names may hold points; the first one counts.
-/

namespace PayloadRules

/-- Rule lists by key. -/
abbrev RuleSet := Table (List Rule)

/-- The rule list of a position. -/
def Position.rules (resolve : Resolver) (p : Position) : List Rule :=
  p.facets.rules resolve (p.requiredThere.bind (presenceRule p.facets p.segment p.container))

/-- The entry of a position. -/
def Position.entry (resolve : Resolver) (p : Position) : String × List Rule :=
  (p.key, p.rules resolve)

namespace Schema

/-- Files the rules of a schema into a rule set that exists already. -/
def rulesInto (resolve : Resolver) (container : Path) (required : NameSet) (set : RuleSet)
    (s : Schema) : Except CompileError RuleSet :=
  (s.positions container required).map fun ps => set.insertAll (ps.map (Position.entry resolve))

/-- The rule set of a schema that stands in a container. -/
def rules (resolve : Resolver) (container : Path) (required : NameSet) (s : Schema) :
    Except CompileError RuleSet :=
  s.rulesInto resolve container required Table.empty

end Schema

namespace RuleSet

/-- A rule list is written as the list of its texts. -/
def rulesToJson (rules : List Rule) : Json := .arr (rules.map fun r => .str r.text)

def toJson (set : RuleSet) : Json := .obj (set.entries.map fun e => (e.1, rulesToJson e.2))

end RuleSet

end PayloadRules
