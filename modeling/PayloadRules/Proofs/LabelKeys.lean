import PayloadRules.Proofs.Site.Tables
import PayloadRules.Rule.Registry

/-!
# Labels and rules cover the same tree

Labels are there so that messages about rules need not speak of keys. The two walks
were compared with the sites of a schema one by one; here they are compared with
each other. Where there are rules there are labels. In a tree with plain names the
keys of both are in the order of the sites, and they differ in two ways only:

- a site inside an array of arrays has rules and no label,
- a named array whose items have fields of their own has a label for its items,
  for which there are no rules.

The second holds of named arrays only. An array that is itself an item has one
label, that of the wildcard, whatever its own items are.
-/

namespace PayloadRules

namespace Site

/-- A single item has no fields of its own. -/
theorem not_hasFields_of_mem_children {u v : Site} (h : u ∈ v.children) (item : u.isItem = true) :
    ¬ u.node.HasFields := by
  obtain ⟨-, p, -, rfl⟩ | ⟨-, i, -, ⟨fields, -, p, -, rfl⟩ | ⟨single, rfl⟩⟩ := mem_children h
  · cases item
  · cases item
  · exact Schema.itemProperties_eq_none_iff.mp single

/-- What has something below it and no fields of its own is an array. -/
theorem kind_of_mem_children {u v : Site} (h : u ∈ v.children) (bare : ¬ v.node.HasFields) :
    v.node.kind = some .array := by
  obtain ⟨-, p, hp, -⟩ | ⟨array, -⟩ := mem_children h
  · rw [(Schema.not_hasFields_iff.mp bare).2] at hp
    cases hp
  · exact array

section Tree

variable {s : Schema} {container : Path} {required : NameSet} {v : Site}

/-- The items above a site are arrays without properties. -/
theorem ancestor_items_are_arrays (hv : v ∈ (top container required s).preorder) :
    ∀ u ∈ v.ancestors, u.isItem = true →
      u.node.kind = some .array ∧ u.node.properties = [] := by
  let Bare := fun w : Site => w.isItem = true → ¬ w.node.HasFields
  let Above := fun w : Site => ∀ u ∈ w.ancestors, u.isItem = true →
    u.node.kind = some .array ∧ u.node.properties = []
  have both : Bare v ∧ Above v := by
    refine forall_mem_preorder (P := fun w => Bare w ∧ Above w) ?_ ?_ v hv
    · rintro u ⟨bare, above⟩ w hw
      refine ⟨not_hasFields_of_mem_children hw, fun a ha item => ?_⟩
      rw [ancestors_of_mem_children hw] at ha
      rcases List.mem_cons.mp ha with rfl | ha
      · exact ⟨kind_of_mem_children hw (bare item), (Schema.not_hasFields_iff.mp (bare item)).2⟩
      · exact above a ha item
    · exact ⟨fun item => (nomatch item), fun a ha => (nomatch ha)⟩
  exact both.2

/-- Buried are the sites inside arrays of arrays. -/
theorem isBuried_iff (hv : v ∈ (top container required s).preorder) :
    v.isBuried = true ↔ ∃ u ∈ v.ancestors, u.isItem = true ∧
      u.node.kind = some .array ∧ u.node.properties = [] := by
  rw [isBuried, List.any_eq_true]
  constructor
  · rintro ⟨u, hu, item⟩
    exact ⟨u, hu, item, ancestor_items_are_arrays hv u hu item⟩
  · rintro ⟨u, hu, item, -⟩
    exact ⟨u, hu, item⟩

end Tree

theorem mem_labelKeys {v : Site} {k : String} :
    k ∈ v.labelKeys ↔
      k = v.key ∨ v.isItem = false ∧ v.hasItemFields = true ∧ k = v.path.wildcard.key := by
  rw [labelKeys, List.mem_cons]
  refine or_congr_right ?_
  split
  · next both => rw [List.mem_singleton, ← and_assoc, and_iff_right both]
  · next neither =>
    constructor
    · intro absent
      cases absent
    · rintro ⟨named, fields, -⟩
      exact (neither ⟨named, fields⟩).elim

theorem mem_keys_of_mem_labelKeys {v : Site} {k : String} (h : k ∈ v.labelKeys) : k ∈ v.keys :=
  (labelKeys_sublist_keys v).subset h

end Site

namespace Schema

open Site

variable {s : Schema} {container : Path} {required : NameSet} {resolve : Resolver}
  {set : RuleSet}

section Open

variable {format : Formatter} {inside : Bool} {root : String} {table : LabelTable}

theorem mem_keys_of_labelsIn (plain : s.PlainNames)
    (compiled : s.rules resolve container required = .ok set)
    (labelled : s.labelsIn format container inside root = .ok table) {k : String} :
    k ∈ table.keys ↔
      ∃ v ∈ (top container required s).preorder, v.isBuried = false ∧ k ∈ v.labelKeys := by
  rw [keys_of_labelsIn plain compiled labelled]
  constructor
  · intro h
    obtain ⟨v, hv, hk⟩ := List.mem_flatMap.mp h
    obtain ⟨hv, shallow⟩ := List.mem_filter.mp hv
    exact ⟨v, hv, Bool.not_eq_true' _ ▸ shallow, hk⟩
  · rintro ⟨v, hv, shallow, hk⟩
    exact List.mem_flatMap.mpr ⟨v, List.mem_filter.mpr ⟨hv, by rw [shallow]; rfl⟩, hk⟩

theorem mem_keys_of_rules (plain : s.PlainNames)
    (compiled : s.rules resolve container required = .ok set) {k : String} :
    k ∈ set.keys ↔ ∃ v ∈ (top container required s).preorder, v.key = k := by
  rw [keys_of_rules plain compiled, List.mem_map]

/-- Rules without a label stand inside arrays of arrays. -/
theorem not_labelled_iff (plain : s.PlainNames)
    (compiled : s.rules resolve container required = .ok set)
    (labelled : s.labelsIn format container inside root = .ok table) {k : String}
    (filed : k ∈ set.keys) :
    k ∉ table.keys ↔
      ∃ v ∈ (top container required s).preorder, v.isBuried = true ∧ v.key = k := by
  rw [mem_keys_of_labelsIn plain compiled labelled]
  constructor
  · intro absent
    obtain ⟨v, hv, rfl⟩ := (mem_keys_of_rules plain compiled).mp filed
    refine ⟨v, hv, ?_, rfl⟩
    by_contra shallow
    exact absent ⟨v, hv, Bool.not_eq_true _ ▸ shallow, mem_labelKeys.mpr (Or.inl rfl)⟩
  · rintro ⟨v, hv, buried, rfl⟩ ⟨u, hu, shallow, hk⟩
    have same : u = v := eq_of_mem_keys plain (named_of_rules compiled) hu hv
      (mem_keys_of_mem_labelKeys hk) (key_mem_keys v)
    rw [same, buried] at shallow
    cases shallow

/-- Labels without rules belong to the items of named arrays. -/
theorem not_ruled_iff (plain : s.PlainNames)
    (compiled : s.rules resolve container required = .ok set)
    (labelled : s.labelsIn format container inside root = .ok table) {k : String}
    (filed : k ∈ table.keys) :
    k ∉ set.keys ↔
      ∃ v ∈ (top container required s).preorder, v.isBuried = false ∧ v.isItem = false ∧
        v.hasItemFields = true ∧ v.path.wildcard.key = k := by
  rw [mem_keys_of_rules plain compiled]
  constructor
  · intro absent
    obtain ⟨v, hv, shallow, hk⟩ := (mem_keys_of_labelsIn plain compiled labelled).mp filed
    rcases mem_labelKeys.mp hk with own | ⟨named, fields, items⟩
    · exact (absent ⟨v, hv, own.symm⟩).elim
    · exact ⟨v, hv, shallow, named, fields, items.symm⟩
  · rintro ⟨v, hv, -, -, fields, rfl⟩ ⟨u, hu, same⟩
    have keys : v.keys = [v.key, v.path.wildcard.key] := by rw [Site.keys, if_pos fields]
    have items : v.path.wildcard.key ∈ v.keys := by
      rw [keys]
      exact List.mem_cons_of_mem _ (List.mem_singleton_self _)
    have here : u = v := eq_of_mem_keys plain (named_of_rules compiled) hu hv
      (same ▸ key_mem_keys u) items
    -- the two keys of one site differ
    have distinct := (List.nodup_flatMap.mp
      (nodup_flatMap_keys plain (named_of_rules compiled))).1 v hv
    rw [keys] at distinct
    exact (List.nodup_cons.mp distinct).1 (List.mem_singleton.mpr (here ▸ same))

end Open

/-- Where a schema has rules it has labels, whatever is handed down. In a tree with
plain names the rule keys are those of all sites in preorder, and the label keys
those of the sites outside arrays of arrays, where a named array whose items have
fields of their own has the key of its items directly behind its own. -/
theorem labels_cover_rules (compiled : s.rules resolve container required = .ok set) :
    (∀ format inside root, ∃ table, s.labelsIn format container inside root = .ok table) ∧
      (s.PlainNames → ∀ format inside root table,
        s.labelsIn format container inside root = .ok table →
        set.keys = (top container required s).preorder.map key ∧
        table.keys = ((top container required s).preorder.filter (!·.isBuried)).flatMap labelKeys ∧
        (∀ v ∈ (top container required s).preorder,
          (v.isBuried = true ↔ ∃ u ∈ v.ancestors, u.isItem = true ∧
            u.node.kind = some .array ∧ u.node.properties = [])) ∧
        (∀ k ∈ set.keys, (k ∉ table.keys ↔
          ∃ v ∈ (top container required s).preorder, v.isBuried = true ∧ v.key = k)) ∧
        (∀ k ∈ table.keys, (k ∉ set.keys ↔
          ∃ v ∈ (top container required s).preorder, v.isBuried = false ∧ v.isItem = false ∧
            v.hasItemFields = true ∧ v.path.wildcard.key = k))) := by
  refine ⟨exists_labelsIn_of_rules compiled, fun plain format inside root table labelled => ?_⟩
  refine ⟨keys_of_rules plain compiled, keys_of_labelsIn plain compiled labelled,
    fun v hv => isBuried_iff hv, fun k filed => ?_, fun k filed => ?_⟩
  · exact not_labelled_iff plain compiled labelled filed
  · exact not_ruled_iff plain compiled labelled filed

/-- Order lines have a label for their items and no rules for them. -/
theorem labels_of_orderLines :
    ∃ set table, orderLines.rules Registry.builtin.resolve Path.root NameSet.empty = .ok set ∧
      orderLines.labelsIn (fun key _ => key.name) Path.root false "" = .ok table ∧
      "lines.*" ∈ table.keys ∧ "lines.*" ∉ set.keys := by
  obtain ⟨set, compiled⟩ : ∃ set,
      orderLines.rules Registry.builtin.resolve Path.root NameSet.empty = .ok set := ⟨_, rfl⟩
  obtain ⟨table, labelled, filed⟩ : ∃ table,
      orderLines.labelsIn (fun key _ => key.name) Path.root false "" = .ok table ∧
        "lines.*" ∈ table.keys := ⟨_, rfl, by decide⟩
  obtain ⟨-, covers⟩ := labels_cover_rules compiled
  obtain ⟨-, -, -, -, ruled⟩ := covers plainNames_orderLines _ _ _ _ labelled
  have items : "lines.*" ∉ set.keys :=
    (ruled _ filed).mpr ⟨_, mem_preorder_self _, rfl, rfl, rfl, rfl⟩
  exact ⟨set, table, compiled, labelled, filed, items⟩

/-- An array that is an item itself has one label, though its items have fields of
their own: it is not true that every such array outside arrays of arrays has a
label for its items. -/
theorem item_arrays_have_one_label :
    ¬ ∀ (s : Schema) (required : NameSet) (resolve : Resolver) (set : RuleSet)
      (format : Formatter) (table : LabelTable), s.PlainNames →
      s.rules resolve Path.root required = .ok set → s.labels format = .ok table →
      table.keys = ((top Path.root required s).preorder.filter (!·.isBuried)).flatMap keys := by
  intro every
  obtain ⟨set, compiled⟩ : ∃ set, rows.rules Registry.builtin.resolve Path.root NameSet.empty =
    .ok set := ⟨_, rfl⟩
  obtain ⟨table, labelled, actual⟩ : ∃ table, rows.labels (fun key _ => key.name) = .ok table ∧
    table.keys = ["rows", "rows.*"] := ⟨_, rfl, rfl⟩
  have same := every rows NameSet.empty _ set _ table plainNames_rows compiled labelled
  have row := mem_preorder_of_mem_children
    (mem_preorder_self (top Path.root NameSet.empty rows)) List.mem_cons_self
  have promised : "rows.*.*" ∈ ((top Path.root NameSet.empty rows).preorder.filter
      (!·.isBuried)).flatMap keys :=
    List.mem_flatMap.mpr
      ⟨_, List.mem_filter.mpr ⟨row, rfl⟩, List.mem_cons_of_mem _ List.mem_cons_self⟩
  rw [← same, actual] at promised
  exact absurd promised (by decide)

end Schema

end PayloadRules
