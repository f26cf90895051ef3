import PayloadRules.Proofs.Site.Positions
import PayloadRules.Proofs.Table
import PayloadRules.RuleSet

/-!
# Filing on the way

The rule set of a schema is filled from the positions of the schema once these are known. It
may as well be filled on the way: `Schema.fileInto` spells out a walk that hands a set on from
node to node and files each rule list when it comes to the node. The two end up with the same
set or the same error (`Schema.fileInto_eq`), whatever set they start from.

So filing into a set that has entries already comes to the same as extending it by a set of
its own for the schema, and this is what a request relies on when it extends its rules field by
field. Names may repeat, within the schema and with what is in the set.
-/

namespace PayloadRules

namespace Schema

section Filing

variable (resolve : Resolver)

mutual

/-- Files the rules of a schema on the way through it. -/
def fileInto (container : Path) (required : NameSet) (set : RuleSet) :
    Schema → Except CompileError RuleSet
  | node f properties items => do
    let name ← nameUnder container f.name?
    let path := container.child name
    let set := set.insert path.key (f.rules resolve (presenceRule f name container required))
    if f.kind = some .array then fileItemsInto path set items
    else filePropertiesInto path (NameSet.ofDeclared f.required) set properties

/-- Files the rules below the array at a path. -/
def fileItemsInto (array : Path) (set : RuleSet) : Option Schema → Except CompileError RuleSet
  | none => .error (.missingItemSchema array)
  | some (node f properties items) =>
    if f.kind = some .object ∨ properties ≠ [] then
      filePropertiesInto array.wildcard (NameSet.ofDeclared f.required) set properties
    else
      let set := set.insert array.wildcard.key (f.rules resolve none)
      if f.kind = some .array then fileItemsInto array.wildcard set items else .ok set

/-- Files the rules of schemas in one container, from left to right. -/
def filePropertiesInto (container : Path) (required : NameSet) (set : RuleSet) :
    List Schema → Except CompileError RuleSet
  | [] => .ok set
  | s :: rest => do
    filePropertiesInto container required (← fileInto container required set s) rest

end

/-- The entries of positions, filed into a set once they are known. -/
def filed (set : RuleSet) (found : Except CompileError (List Position)) :
    Except CompileError RuleSet :=
  found.map fun ps => set.insertAll (ps.map (Position.entry resolve))

variable {resolve}

theorem filed_map_cons (set : RuleSet) (p : Position)
    (found : Except CompileError (List Position)) :
    filed resolve set (found.map (p :: ·)) =
      filed resolve (set.insert p.key (p.rules resolve)) found := by
  cases found <;> rfl

theorem filed_map_append (set : RuleSet) (first : List Position)
    (found : Except CompileError (List Position)) :
    filed resolve set (found.map (first ++ ·)) =
      filed resolve (set.insertAll (first.map (Position.entry resolve))) found := by
  cases found with
  | error e => rfl
  | ok ps =>
    have parts : set.insertAll ((first ++ ps).map (Position.entry resolve)) =
        (set.insertAll (first.map (Position.entry resolve))).insertAll
          (ps.map (Position.entry resolve)) := by
      rw [List.map_append, Table.insertAll_append]
    exact congrArg Except.ok parts

mutual

/-- A set that is handed on from node to node ends up as one into which all positions are
filed afterwards. -/
theorem fileInto_eq (container : Path) (required : NameSet) (set : RuleSet) : ∀ s : Schema,
    fileInto resolve container required set s =
      filed resolve set (s.positions container required)
  | node f properties items => by
    cases named : f.name? with
    | none =>
      rw [positions_of_unnamed container required (s := node f properties items) named, fileInto,
        named]
      rfl
    | some name =>
      rw [positions_of_named container required (s := node f properties items) named,
        filed_map_cons, fileInto, named, nameUnder_some, positionsBelow]
      by_cases array : f.kind = some .array
      · rw [if_pos (show (node f properties items).kind = some .array from array)]
        exact (if_pos array).trans (fileItemsInto_eq (container.child name) _ items)
      · rw [if_neg (show (node f properties items).kind ≠ some .array from array)]
        exact (if_neg array).trans (filePropertiesInto_eq (container.child name) _ _ properties)

theorem fileItemsInto_eq (array : Path) (set : RuleSet) : ∀ items : Option Schema,
    fileItemsInto resolve array set items = filed resolve set (itemPositions array items)
  | none => rfl
  | some (node f properties items) => by
    by_cases shape : f.kind = some .object ∨ properties ≠ []
    · rw [fileItemsInto, if_pos shape, itemPositions, if_pos shape]
      exact filePropertiesInto_eq array.wildcard _ set properties
    · rw [fileItemsInto, if_neg shape, itemPositions, if_neg shape]
      by_cases inner : f.kind = some .array
      · rw [if_pos inner, if_pos inner, fileItemsInto_eq array.wildcard _ items]
        exact (filed_map_cons set ⟨array, Path.anyIndex, f, none⟩ _).symm
      · rw [if_neg inner, if_neg inner]
        rfl

theorem filePropertiesInto_eq (container : Path) (required : NameSet) (set : RuleSet) :
    ∀ properties : List Schema,
    filePropertiesInto resolve container required set properties =
      filed resolve set (propertyPositions container required properties)
  | [] => rfl
  | s :: rest => by
    rw [filePropertiesInto, fileInto_eq container required set s, propertyPositions_cons]
    cases s.positions container required with
    | error e => rfl
    | ok first =>
      change filePropertiesInto resolve container required
        (set.insertAll (first.map (Position.entry resolve))) rest = _
      rw [filePropertiesInto_eq container required _ rest]
      exact (filed_map_append set first _).symm

end

/-- Filing into a set that has entries already is extending it by the set of the schema. -/
theorem rulesInto_of_rules {s : Schema} {container : Path} {required : NameSet} {out : RuleSet}
    (compiled : s.rules resolve container required = .ok out) (set : RuleSet) :
    s.rulesInto resolve container required set = .ok (set.extend out) := by
  rw [rules, rulesInto] at compiled
  rw [rulesInto]
  cases found : s.positions container required with
  | error e =>
    rw [found] at compiled
    cases compiled
  | ok ps =>
    rw [found] at compiled
    cases compiled
    exact congrArg Except.ok (Table.extend_ofFirst set _).symm

end Filing

/-- Extending is an ordered union in which the first entry of a name wins: the left side keeps
its entries in their places, and of the right side those follow whose names are new, in their
order. It is associative, a table adds nothing to itself, and the empty table adds nothing and
changes nothing. This holds of rule sets, of label tables and of any other table. A schema that
compiles may be filed into a set that exists already, afterwards or on the way through the
schema: the result is that set extended by the rule set of the schema, whatever names repeat. -/
theorem filing_is_extending :
    (∀ (α : Type) (a b c : Table α),
      (a.extend b).entries = a.entries ++ b.entries.filter (fun e => e.1 ∉ a.keys) ∧
      (a.extend b).extend c = a.extend (b.extend c) ∧ a.extend a = a ∧
      Table.empty.extend a = a ∧ a.extend Table.empty = a) ∧
    ∀ (s : Schema) (resolve : Resolver) (container : Path) (required : NameSet) (out : RuleSet),
      s.rules resolve container required = .ok out → ∀ set : RuleSet,
        s.rulesInto resolve container required set = .ok (set.extend out) ∧
        fileInto resolve container required set s = .ok (set.extend out) := by
  constructor
  · intro α a b c
    exact ⟨a.entries_extend b, a.extend_assoc b c, a.extend_self, a.empty_extend, a.extend_empty⟩
  · intro s resolve container required out compiled set
    have afterwards := rulesInto_of_rules compiled set
    exact ⟨afterwards, (fileInto_eq container required set s).trans afterwards⟩

/-- An address whose town is written twice: as a name with a point in it, and as a name below
another one. -/
def twiceNamed : Schema :=
  node { kind := some .object, key := some "to" }
    [node { kind := some .string, key := some "town.name" } [] none,
      node { key := some "town" } [node { kind := some .integer, key := some "name" } [] none] none]
    none

/-- A set with two lists of its own, one of them for the address. -/
def kept : RuleSet := Table.ofFirst [("id", [.required]), ("to", [.nullable])]

/-- Where keys repeat within the schema and with what is in the set, the first lists stay. -/
theorem filing_of_twiceNamed :
    ∃ out, twiceNamed.rules Rule.named Path.root NameSet.empty = .ok out ∧
      fileInto Rule.named Path.root NameSet.empty kept twiceNamed = .ok (kept.extend out) ∧
      (kept.extend out).entries = [("id", [.required]), ("to", [.nullable]),
        ("to.town.name", [.type .string]), ("to.town", [])] := by
  obtain ⟨out, compiled⟩ : ∃ out, twiceNamed.rules Rule.named Path.root NameSet.empty = .ok out :=
    ⟨_, rfl⟩
  obtain ⟨unions, filing⟩ := filing_is_extending
  refine ⟨out, compiled, (filing _ _ _ _ out compiled kept).2, ?_⟩
  rw [(unions _ kept out out).1]
  cases compiled
  rfl

end Schema

end PayloadRules
