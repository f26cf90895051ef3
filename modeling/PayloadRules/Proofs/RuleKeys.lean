import PayloadRules.Proofs.Site.Tables
import PayloadRules.Rule.Registry

/-!
# The keys of a rule set

The first rule list filed under a key stays, and a second one is dropped without a
word. In a tree with plain names this never happens: there is one rule list for
every site, in the order of the sites, and a key can be read back into the path it
was made of. The points of a key count the steps above its last segment.
-/

namespace PayloadRules

namespace Site

/-- The segments of a site: one for every name on the way, its own included, and one
for every wildcard. -/
theorem length_trail (v : Site) :
    v.trail.length =
      (v.ancestors.filter (!·.isItem)).length + v.wildcards + if v.isItem then 0 else 1 := by
  have above (parent : Site) : ((parent :: parent.ancestors).filter (!·.isItem)).length =
      (parent.ancestors.filter (!·.isItem)).length + if parent.isItem then 0 else 1 := by
    cases parent with
    | anyItem array s => rfl
    | _ => rfl
  induction v with
  | top container required s => rfl
  | property parent s ih =>
    rw [trail, List.length_append, ih, ancestors, above, wildcards]
    simp only [isItem, List.length_singleton, Bool.false_eq_true, if_false]
    omega
  | field array items s ih =>
    rw [trail, List.length_append, ih, ancestors, above, wildcards]
    simp only [isItem, List.length_cons, List.length_nil, Bool.false_eq_true, if_false]
    omega
  | anyItem array s ih =>
    rw [trail, List.length_append, ih, ancestors, above, wildcards]
    simp only [isItem, List.length_singleton, if_true]
    omega

section Keys

variable {v : Site}

theorem segments_of_front (front : v.front = Path.root) : v.path.segments = v.trail := by
  rw [segments_path, front]
  rfl

/-- The key of a plain site splits back into its segments. -/
theorem split_key (front : v.front = Path.root) (plain : v.IsPlain) :
    (v.key.split '.').toList.map (·.copy) = v.path.segments := by
  rw [key, Path.key, segments_of_front front]
  exact Path.split_join (trail_ne_nil v) plain.2

/-- The points in the key of a plain named site. -/
theorem count_key_of_named (front : v.front = Path.root) (plain : v.IsPlain)
    (named : v.isItem = false) :
    v.key.toList.count '.' = (v.ancestors.filter (!·.isItem)).length + v.wildcards := by
  have points := Path.count_join (trail_ne_nil v) plain.2
  simp only [length_trail, named, Bool.false_eq_true, if_false] at points
  rw [key, Path.key, segments_of_front front]
  omega

theorem count_key_anyItem (array : Site) (i : Schema) :
    (anyItem array i).key.toList.count '.' = array.key.toList.count '.' + 1 := by
  have key : (anyItem array i).key = array.key ++ ".*" := Path.key_wildcard array.isRoot_path
  have point : ".*".toList.count '.' = 1 := by decide
  rw [key, String.toList_append, List.count_append, point]

end Keys

end Site

namespace Schema

open Site

variable {s : Schema} {required : NameSet} {resolve : Resolver} {set : RuleSet}

/-- In a tree with plain names no rule list is lost. The positions of the walk are the
sites in preorder, each has its entry, the keys are the joined paths and distinct,
and each splits back into the segments of its path. The points in the key of a
named site count the named sites and the wildcards above it, and a wildcard adds
one point to the key of its array. -/
theorem rules_file_every_site (plain : s.PlainNames)
    (compiled : s.rules resolve Path.root required = .ok set) :
    s.positions Path.root required = .ok ((top Path.root required s).preorder.map position) ∧
      set.entries = (top Path.root required s).preorder.map
        (fun v => (Path.join v.path.segments, v.position.rules resolve)) ∧
      set.keys = (top Path.root required s).preorder.map (fun v => Path.join v.path.segments) ∧
      ((top Path.root required s).preorder.map key).Nodup ∧
      ∀ v ∈ (top Path.root required s).preorder,
        (v.key.split '.').toList.map (·.copy) = v.path.segments ∧
        (v.isItem = false →
          v.key.toList.count '.' = (v.ancestors.filter (!·.isItem)).length + v.wildcards) ∧
        ∀ array i, v = anyItem array i →
          v.key.toList.count '.' = array.key.toList.count '.' + 1 := by
  have sound := (rules_eq_ok_iff.mp compiled).1
  have positions : s.positions Path.root required =
      .ok ((top Path.root required s).preorder.map position) := by
    rw [positions_eq_gather, gather_eq_ok_iff, List.map_eq_flatMap]
    exact ⟨sound, rfl⟩
  have entries := entries_of_rules plain compiled
  have keys := keys_of_rules plain compiled
  refine ⟨positions, ?_, keys, keys ▸ set.nodup, fun v hv => ?_⟩
  · rw [entries]
    exact List.map_congr_left fun v _ => Prod.ext (fst_ruleEntry resolve v) rfl
  · have front : v.front = Path.root := front_of_mem_preorder hv
    have own := isPlain_of_mem_preorder plain v hv
    refine ⟨split_key front own, count_key_of_named front own, ?_⟩
    rintro array i rfl
    exact count_key_anyItem array i

/-- Order lines have one rule list for each of their five sites. -/
theorem keys_of_orderLines :
    ∃ set, orderLines.rules Registry.builtin.resolve Path.root NameSet.empty = .ok set ∧
      set.keys =
        ["lines", "lines.*.code", "lines.*.cells", "lines.*.cells.*", "lines.*.cells.*.*"] ∧
      set.entries.length =
        (top Path.root NameSet.empty orderLines).preorder.length := by
  obtain ⟨set, compiled, keys⟩ : ∃ set,
      orderLines.rules Registry.builtin.resolve Path.root NameSet.empty = .ok set ∧ set.keys =
        ["lines", "lines.*.code", "lines.*.cells", "lines.*.cells.*", "lines.*.cells.*.*"] :=
    ⟨_, rfl, rfl⟩
  obtain ⟨-, entries, -⟩ := rules_file_every_site plainNames_orderLines compiled
  exact ⟨set, compiled, keys, by rw [entries, List.length_map]⟩

end Schema

end PayloadRules
