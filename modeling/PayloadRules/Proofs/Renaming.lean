import PayloadRules.Proofs.Merge

/-!
# What renaming does to requirements

Required names are kept as plain names in the list of the container, and merging
never takes a name out of a list or writes one differently. It only adds the names
that required bindings ask for. The name of a field may change, though, for the name
of a binding becomes its title.

A field that is required under its old name is therefore required after the merge
under its new name when

- the binding has no name, or gives the field the name it has,
- or the binding is required itself,
- or the list knows the new name already.

There is no other way at the top (`Schema.stays_required_iff`). Inside a tree a sibling
may also bring the name along, when it is merged to the same name by a required binding.
-/

namespace PayloadRules

namespace Schema

variable {s : Schema} {old : String}

/-- Around a node its merged name is required when it was before or its binding makes
it so. -/
theorem mem_merge_snd {new : String} (named : s.merged.name? = some new) (enclosing : NameSet) :
    new ∈ (s.merge enclosing).2 ↔ new ∈ enclosing ∨ s.facets.isBoundRequired = true := by
  rw [merge_snd, NameSet.mem_insertAll, Option.mem_toList, asked_eq_some_iff, and_iff_left named]

/-- A node that is required where it stands is required under its merged name exactly
when the merge leaves its name, or its binding is required, or the new name is required
already. -/
theorem mem_merge_snd_iff_of_required {enclosing : NameSet} (named : s.name? = some old)
    (there : old ∈ enclosing) :
    s.facets.boundName.getD old ∈ (s.merge enclosing).2 ↔
      s.facets.boundName.getD old = old ∨ s.facets.isBoundRequired = true ∨
        s.facets.boundName.getD old ∈ enclosing := by
  rw [mem_merge_snd (name?_merged_of_name named)]
  constructor
  · rintro (kept | bound)
    · exact Or.inr (Or.inr kept)
    · exact Or.inr (Or.inl bound)
  · rintro (same | bound | kept)
    · exact Or.inl (same.symm ▸ there)
    · exact Or.inr bound
    · exact Or.inl kept

/-- The same for a property that its parent requires, where a sibling may bring the
name along. -/
theorem mem_requiredSet_merged_iff_of_required {p : Schema} (here : p ∈ s.properties)
    (named : p.name? = some old) (there : old ∈ s.facets.requiredSet) :
    p.facets.boundName.getD old ∈ s.merged.facets.requiredSet ↔
      p.facets.boundName.getD old = old ∨ p.facets.isBoundRequired = true ∨
        p.facets.boundName.getD old ∈ s.facets.requiredSet ∨
        ∃ q ∈ s.properties, q.facets.isBoundRequired = true ∧
          q.merged.name? = some (p.facets.boundName.getD old) := by
  rw [mem_requiredSet_merged]
  constructor
  · rintro (kept | sibling)
    · exact Or.inr (Or.inr (Or.inl kept))
    · exact Or.inr (Or.inr (Or.inr sibling))
  · rintro (same | bound | kept | sibling)
    · exact Or.inl (same.symm ▸ there)
    · exact Or.inr ⟨p, here, bound, name?_merged_of_name named⟩
    · exact Or.inl kept
    · exact Or.inr sibling

/-- Merging makes a required field optional only by renaming it. A node whose name is
required around it is required around it under its merged name exactly when its name
stays the same, or its binding is required, or the new name is required anyway. The
same holds at every place of the tree for the properties of the node that stands
there, with the list of that node, where the name may also come from a sibling. -/
theorem stays_required_iff (s : Schema) (enclosing : NameSet) :
    (∀ old, s.name? = some old → old ∈ enclosing →
      ∃ new, (s.merge enclosing).1.name? = some new ∧ new = s.facets.boundName.getD old ∧
        (new ∈ (s.merge enclosing).2 ↔
          new = old ∨ s.facets.isBoundRequired = true ∨ new ∈ enclosing)) ∧
    ∀ place n, s.at? place = some n →
      ∃ m, (s.merge enclosing).1.at? place = some m ∧
        m.properties.length = n.properties.length ∧
        ∀ (i : Nat) (p q : Schema), n.properties[i]? = some p → m.properties[i]? = some q →
          ∀ old, p.name? = some old → old ∈ n.facets.requiredSet →
            ∃ new, q.name? = some new ∧ new = p.facets.boundName.getD old ∧
              (new ∈ m.facets.requiredSet ↔
                new = old ∨ p.facets.isBoundRequired = true ∨ new ∈ n.facets.requiredSet ∨
                  ∃ r ∈ n.properties, r.facets.isBoundRequired = true ∧
                    r.merged.name? = some new) := by
  rw [merge_fst]
  constructor
  · intro old named there
    exact ⟨_, name?_merged_of_name named, rfl, mem_merge_snd_iff_of_required named there⟩
  · intro place n stands
    refine ⟨n.merged, ?_, ?_, ?_⟩
    · rw [at?_merged, stands, Option.map_some]
    · rw [properties_merged, List.length_map]
    · intro i p q hp hq old named there
      have merged : q = p.merged := by
        rw [properties_merged, List.getElem?_map, hp] at hq
        exact (Option.some.inj hq).symm
      subst merged
      exact ⟨_, name?_merged_of_name named, rfl,
        mem_requiredSet_merged_iff_of_required (List.mem_of_getElem? hp) named there⟩

/-- A field for the order of a list, which is sent under another name. -/
def sortField : Schema :=
  node { kind := some .string, key := some "sort", binding := some { name := some "order" } }
    [] none

/-- A filter that requires the order of the list. -/
def sortedFilter : Schema :=
  node { kind := some .object, key := some "filter", required := some ["sort"] } [sortField] none

/-- Renaming drops a requirement, around a tree as inside of it: it is not true that a
required field is always required under its merged name. -/
theorem renaming_drops_requirement :
    (¬ ∀ (s : Schema) (b : Binding) (enclosing : NameSet) (old : String),
        s.facets.binding = some b → s.name? = some old → old ∈ enclosing →
        ∃ new, (s.merge enclosing).1.name? = some new ∧ new ∈ (s.merge enclosing).2) ∧
      ¬ ∀ (s : Schema) (enclosing : NameSet) (old : String), ∀ p ∈ s.properties,
        p.name? = some old → old ∈ s.facets.requiredSet →
        ∃ new, p.merged.name? = some new ∧
          new ∈ (s.merge enclosing).1.facets.requiredSet := by
  constructor
  · intro always
    obtain ⟨new, named, there⟩ :=
      always sortField { name := some "order" } (NameSet.ofList ["sort"]) "sort" rfl rfl (by decide)
    cases (show some "order" = some new from named)
    exact absurd there (by decide)
  · intro always
    obtain ⟨new, named, there⟩ :=
      always sortedFilter NameSet.empty "sort" sortField List.mem_cons_self rfl (by decide)
    cases (show some "order" = some new from named)
    exact absurd there (by decide)

end Schema

end PayloadRules
