import PayloadRules.Proofs.Path
import PayloadRules.Schema.Basic

/-!
# Plain names

Keys are made by joining names with points, and a name is any text. A tree has plain
names when this is harmless: no name holds a point, and no two properties of one
node share a name. Whether a tree has plain names can be computed.
-/

namespace PayloadRules

namespace Schema

/-- The names of a tree hold no point, and no two properties of one node share a
name. Nodes without a name share none. -/
inductive PlainNames : Schema → Prop
  | intro {s : Schema} (own : ∀ name, s.name? = some name → Plain name)
      (siblings : (s.properties.filterMap name?).Nodup)
      (properties : ∀ p ∈ s.properties, PlainNames p)
      (items : ∀ i, s.items = some i → PlainNames i) : PlainNames s

theorem plainNames_node_iff {f : Facets} {ps : List Schema} {i : Option Schema} :
    (node f ps i).PlainNames ↔
      (∀ name ∈ f.name?, Plain name) ∧ (ps.filterMap name?).Nodup ∧
        (∀ p ∈ ps, p.PlainNames) ∧ ∀ s ∈ i, s.PlainNames := by
  constructor
  · rintro ⟨own, siblings, properties, items⟩
    exact ⟨own, siblings, properties, items⟩
  · rintro ⟨own, siblings, properties, items⟩
    exact ⟨own, siblings, properties, items⟩

mutual

def decidePlainNames : (s : Schema) → Decidable s.PlainNames
  | node f ps i =>
    have := decidePlainNamesAll ps
    have := decidePlainNamesItems i
    decidable_of_iff
      ((∀ name ∈ f.name?, Plain name) ∧ (ps.filterMap name?).Nodup ∧
        (∀ p ∈ ps, p.PlainNames) ∧ ∀ s ∈ i, s.PlainNames)
      plainNames_node_iff.symm

def decidePlainNamesAll : (ps : List Schema) → Decidable (∀ p ∈ ps, p.PlainNames)
  | [] => isTrue fun _ h => (nomatch h)
  | p :: ps =>
    have := decidePlainNames p
    have := decidePlainNamesAll ps
    decidable_of_iff (p.PlainNames ∧ ∀ q ∈ ps, q.PlainNames) List.forall_mem_cons.symm

def decidePlainNamesItems : (i : Option Schema) → Decidable (∀ s ∈ i, s.PlainNames)
  | none => isTrue fun _ h => (nomatch h)
  | some s =>
    have := decidePlainNames s
    decidable_of_iff s.PlainNames
      ⟨fun plain _ same => Option.mem_some_iff.mp same ▸ plain, fun all => all s rfl⟩

end

instance (s : Schema) : Decidable s.PlainNames := decidePlainNames s

/-- Order lines: items with a required code and a table of cells, which is an array
of arrays. -/
def orderLines : Schema :=
  node { kind := some .array, key := some "lines" } [] <| some <|
    node { kind := some .object, required := some ["code"] }
      [node { kind := some .string, key := some "code" } [] none,
        node { kind := some .array, key := some "cells" } [] <| some <|
          node { kind := some .array } [] <| some <| node { kind := some .string } [] none]
      none

theorem plainNames_orderLines : orderLines.PlainNames := by decide

/-- Rows: an array of arrays whose items have fields of their own. -/
def rows : Schema :=
  node { kind := some .array, key := some "rows" } [] <| some <|
    node { kind := some .array } [] <| some <|
      node { kind := some .object } [node { key := some "total" } [] none] none

theorem plainNames_rows : rows.PlainNames := by decide

end Schema

end PayloadRules
