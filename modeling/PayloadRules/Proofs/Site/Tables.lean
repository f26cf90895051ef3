import Mathlib.Data.List.Flatten
import PayloadRules.RuleSet
import PayloadRules.Proofs.Site.Distinct
import PayloadRules.Proofs.Site.Labels
import PayloadRules.Proofs.Site.Positions
import PayloadRules.Proofs.Table

/-!
# Rule sets and label tables, site by site

A rule set is filed from the sites of a schema in preorder, and a label table from
those that stand below no single item. Both exist when the sites they are filed
from are without fault. The label walk visits fewer sites and minds less, so where
there are rules there are labels (`Schema.exists_labelsIn_of_rules`).

In a tree with plain names no entry is dropped: the rule set has one entry for
every site, the label table one or two for every open site, in the order of the
sites.
-/

namespace PayloadRules

namespace Site

variable {format : Formatter} {inside : Bool} {root : String}

/-- The rule entry of a site. -/
def ruleEntry (resolve : Resolver) (v : Site) : String × List Rule := v.position.entry resolve

/-- The keys of the label entries of a site. -/
def labelKeys (v : Site) : List String :=
  v.key :: if v.isItem = false ∧ v.hasItemFields then [v.path.wildcard.key] else []

theorem fst_ruleEntry (resolve : Resolver) (v : Site) : (v.ruleEntry resolve).1 = v.key := by
  rw [key, path_eq_child]
  rfl

theorem map_fst_ruleEntry (resolve : Resolver) (vs : List Site) :
    (vs.map (ruleEntry resolve)).map Prod.fst = vs.map key := by
  rw [List.map_map]
  exact List.map_congr_left fun v _ => fst_ruleEntry resolve v

theorem map_fst_labelEntries (v : Site) :
    (v.labelEntries format inside root).map Prod.fst = v.labelKeys := by
  rw [labelKeys]
  cases item : v.isItem with
  | true =>
    cases v with
    | anyItem array s => rfl
    | _ => cases item
  | false =>
    rw [labelEntries_of_named item]
    cases v.hasItemFields <;> rfl

theorem labelKeys_sublist_keys (v : Site) : v.labelKeys.Sublist v.keys := by
  rw [labelKeys, keys]
  refine List.Sublist.cons_cons _ ?_
  cases own : v.hasItemFields with
  | false => rw [if_neg (fun both => Bool.noConfusion both.2), if_neg Bool.noConfusion]
  | true =>
    cases v.isItem with
    | false => exact List.Sublist.refl _
    | true => exact List.nil_sublist _

/-- No two open sites of a plain tree answer for the same segments, where open sites have
names. -/
theorem nodup_flatMap_trails_open (v : Site) (shallow : v.isBuried = false)
    (plain : ∀ w ∈ v.preorder, w.node.PlainNames)
    (named : ∀ w ∈ v.preorder.filter (!·.isBuried), w.isItem = false → w.node.name? ≠ none) :
    ((v.preorder.filter (!·.isBuried)).flatMap trails).Nodup := by
  induction v using children_induction with
  | step v ih =>
    have split : v.preorder.filter (!·.isBuried) =
        v :: (v.children.flatMap preorder).filter (!·.isBuried) := by
      rw [preorder_eq, List.filter_cons_of_pos (by rw [shallow]; rfl)]
    cases item : v.isItem with
    | true =>
      rw [split, filter_open_of_item item, List.flatMap_singleton]
      exact nodup_trails v
    | false =>
      have above : ∀ u ∈ v.children, u.isBuried = false := by
        intro u hu
        rw [isBuried_of_mem_children hu, item, shallow]
        rfl
      rw [List.filter_flatMap] at split
      have inside : ∀ u ∈ v.children, ∀ w ∈ u.preorder.filter (!·.isBuried),
          w ∈ v.preorder.filter (!·.isBuried) := by
        intro u hu w hw
        rw [split]
        exact List.mem_cons_of_mem _ (List.mem_flatMap.mpr ⟨u, hu, hw⟩)
      rw [split]
      refine nodup_flatMap_trails_cons (plain v (mem_preorder_self v)) (fun u hu => ?_)
        (fun _ _ _ hw => List.mem_of_mem_filter hw) fun u hu => ?_
      · refine named u (inside u hu u (List.mem_filter.mpr ⟨mem_preorder_self u, ?_⟩))
        rw [above u hu]
        rfl
      · exact ih u hu (above u hu) (fun w hw => plain w (mem_preorder_of_mem_child hu hw))
          fun w hw => named w (inside u hu w hw)

end Site

namespace Schema

open Site

variable {s : Schema} {container : Path} {required : NameSet} {resolve : Resolver}
  {set : RuleSet} {format : Formatter} {inside : Bool} {root : String} {table : LabelTable}

/-! ## When there are tables -/

theorem rules_eq_ok_iff :
    s.rules resolve container required = .ok set ↔
      (∀ v ∈ (top container required s).preorder, v.fault? = none) ∧
        Table.ofFirst ((top container required s).preorder.map (ruleEntry resolve)) = set := by
  have entries : (((top container required s).preorder.flatMap fun v => [v.position]).map
      (Position.entry resolve)) = (top container required s).preorder.map (ruleEntry resolve) := by
    rw [List.map_flatMap, List.map_eq_flatMap]
    rfl
  rw [rules, rulesInto, positions_eq_gather, gather_map_eq_ok_iff, entries, Table.ofFirst]

theorem labelsIn_eq_ok_iff (required : NameSet) :
    s.labelsIn format container inside root = .ok table ↔
      (∀ v ∈ (top container required s).preorder.filter (!·.isBuried), v.labelFault? = none) ∧
        Table.ofFirst (((top container required s).preorder.filter (!·.isBuried)).flatMap
          (Site.labelEntries format inside root)) = table := by
  rw [labelsIn, labelEntries_eq_gather format s container required, gather_map_eq_ok_iff]

/-- Where there are rules there are labels, whatever is handed down. -/
theorem exists_labelsIn_of_rules (compiled : s.rules resolve container required = .ok set)
    (format : Formatter) (inside : Bool) (root : String) :
    ∃ table, s.labelsIn format container inside root = .ok table := by
  refine ⟨_, (labelsIn_eq_ok_iff required).mpr ⟨fun v hv => ?_, rfl⟩⟩
  have sound := (rules_eq_ok_iff.mp compiled).1 v (List.mem_of_mem_filter hv)
  rw [labelFault?, sound, ite_self]

/-! ## What tables hold -/

/-- Where there are rules every site but a wildcard has a name. -/
theorem named_of_rules (compiled : s.rules resolve container required = .ok set) :
    ∀ v ∈ (top container required s).preorder, v.isItem = false → v.node.name? ≠ none :=
  fun v hv => (fault?_eq_none_iff.mp ((rules_eq_ok_iff.mp compiled).1 v hv)).1

/-- The entry of the top is never dropped, whatever the names below it. -/
theorem get?_top_of_rules (compiled : s.rules resolve container required = .ok set) :
    set.get? (top container required s).key =
      some ((top container required s).ruleEntry resolve).2 := by
  rw [← (rules_eq_ok_iff.mp compiled).2, Table.get?_ofFirst, preorder_eq, List.map_cons,
    lookup_cons_eq_ite, fst_ruleEntry, if_pos rfl]

/-- Every entry is that of the first site with its key. -/
theorem exists_site_of_mem_entries (compiled : s.rules resolve container required = .ok set)
    {e : String × List Rule} (filed : e ∈ set.entries) :
    ∃ v, (top container required s).preorder.find? (fun v => v.key = e.1) = some v ∧
      e.2 = (v.ruleEntry resolve).2 := by
  have found := Table.get?_of_mem_entries filed
  rw [← (rules_eq_ok_iff.mp compiled).2, Table.get?_ofFirst, Table.lookup_map] at found
  simp only [fst_ruleEntry] at found
  obtain ⟨v, first, rules⟩ := Option.map_eq_some_iff.mp found
  exact ⟨v, first, rules.symm⟩

/-- In a tree with plain names every site has its entry. -/
theorem entries_of_rules (plain : s.PlainNames)
    (compiled : s.rules resolve container required = .ok set) :
    set.entries = (top container required s).preorder.map (ruleEntry resolve) := by
  rw [← (rules_eq_ok_iff.mp compiled).2]
  refine Table.entries_ofFirst_of_nodup ?_
  rw [map_fst_ruleEntry]
  exact nodup_map_key plain (named_of_rules compiled)

theorem keys_of_rules (plain : s.PlainNames)
    (compiled : s.rules resolve container required = .ok set) :
    set.keys = (top container required s).preorder.map key := by
  rw [Table.keys, entries_of_rules plain compiled, map_fst_ruleEntry]

/-- Where there are labels every open site but a wildcard has a name. -/
theorem named_of_labelsIn (required : NameSet)
    (labelled : s.labelsIn format container inside root = .ok table) :
    ∀ v ∈ (top container required s).preorder.filter (!·.isBuried),
      v.isItem = false → v.node.name? ≠ none := by
  intro v hv named
  have sound := ((labelsIn_eq_ok_iff required).mp labelled).1 v hv
  rw [labelFault?, if_neg (Bool.not_eq_true _ ▸ named)] at sound
  exact (fault?_eq_none_iff.mp sound).1 named

/-- In a tree with plain names every open site has its labels, where open sites have
names. -/
theorem entries_of_open (plain : s.PlainNames)
    (named : ∀ v ∈ (top container required s).preorder.filter (!·.isBuried),
      v.isItem = false → v.node.name? ≠ none)
    (labelled : s.labelsIn format container inside root = .ok table) :
    table.entries = ((top container required s).preorder.filter (!·.isBuried)).flatMap
      (Site.labelEntries format inside root) := by
  rw [← ((labelsIn_eq_ok_iff required).mp labelled).2]
  refine Table.entries_ofFirst_of_nodup ?_
  rw [List.map_flatMap, List.flatMap_congr fun v _ => map_fst_labelEntries v]
  have part : List.Sublist
      (((top container required s).preorder.filter (!·.isBuried)).flatMap labelKeys)
      (((top container required s).preorder.filter (!·.isBuried)).flatMap keys) :=
    List.Sublist.flatMap_right _ fun v _ => labelKeys_sublist_keys v
  have tree : ∀ v ∈ (top container required s).preorder, v.IsPlain :=
    isPlain_of_mem_preorder plain
  refine part.nodup (nodup_flatMap_keys_of_trails
    (fun v hv => front_of_mem_preorder (List.mem_of_mem_filter hv))
    (fun v hv => tree v (List.mem_of_mem_filter hv)) ?_)
  exact nodup_flatMap_trails_open _ rfl (fun v hv => (tree v hv).1) named

/-- In a tree with plain names every open site has its labels. -/
theorem entries_of_labelsIn (plain : s.PlainNames)
    (compiled : s.rules resolve container required = .ok set)
    (labelled : s.labelsIn format container inside root = .ok table) :
    table.entries = ((top container required s).preorder.filter (!·.isBuried)).flatMap
      (Site.labelEntries format inside root) :=
  entries_of_open plain (fun v hv => named_of_rules compiled v (List.mem_of_mem_filter hv)) labelled

theorem keys_of_labelsIn (plain : s.PlainNames)
    (compiled : s.rules resolve container required = .ok set)
    (labelled : s.labelsIn format container inside root = .ok table) :
    table.keys = ((top container required s).preorder.filter (!·.isBuried)).flatMap labelKeys := by
  rw [Table.keys, entries_of_labelsIn plain compiled labelled, List.map_flatMap]
  exact List.flatMap_congr fun v _ => map_fst_labelEntries v

end Schema

end PayloadRules
