import Mathlib.Data.List.Nodup
import Mathlib.Data.List.Pairwise
import PayloadRules.Proofs.PlainNames
import PayloadRules.Proofs.Site.Basic

/-!
# Different sites have different keys

In a tree with plain names the key of a site says which site it is. The same holds
when the wildcard segment is allowed behind arrays whose items are no site of their
own, so the keys of labels do not clash with one another either
(`Site.nodup_flatMap_keys`).

The argument is about segments, not about keys. Siblings differ in a segment at the
same depth, and everything below a site keeps the site's segments in front.
-/

namespace PayloadRules

namespace Site

/-! ## Segments -/

/-- The path that the top above a site stands in. -/
def front : Site → Path
  | top container _ _ => container
  | property parent _ => parent.front
  | field array _ _ => array.front
  | anyItem array _ => array.front

/-- The segments of a site from its top on. -/
def trail : Site → List String
  | top _ _ s => [s.name?.getD ""]
  | property parent s => parent.trail ++ [s.name?.getD ""]
  | field array _ s => array.trail ++ [Path.anyIndex, s.name?.getD ""]
  | anyItem array _ => array.trail ++ [Path.anyIndex]

theorem segments_path (v : Site) : v.path.segments = v.front.segments ++ v.trail := by
  induction v with
  | top container required s => rfl
  | property parent s ih => simp only [path, Path.child, ih, front, trail, List.append_assoc]
  | field array items s ih =>
    simp only [path, Path.child, Path.wildcard, ih, front, trail, List.append_assoc,
      List.cons_append, List.nil_append]
  | anyItem array s ih =>
    simp only [path, Path.child, Path.wildcard, ih, front, trail, List.append_assoc]

theorem trail_ne_nil (v : Site) : v.trail ≠ [] := by
  cases v <;> simp only [trail, ne_eq, List.append_eq_nil_iff, reduceCtorEq, and_false,
    not_false_eq_true]

theorem front_of_mem_children {u v : Site} (h : u ∈ v.children) : u.front = v.front := by
  obtain ⟨-, p, -, rfl⟩ | ⟨-, items, -, ⟨-, -, p, -, rfl⟩ | ⟨-, rfl⟩⟩ := mem_children h <;> rfl

theorem front_of_mem_preorder {v w : Site} (h : w ∈ v.preorder) : w.front = v.front :=
  forall_mem_preorder (P := fun u => u.front = v.front)
    (fun _ same _ hw => (front_of_mem_children hw).trans same) rfl w h

/-- A child keeps the segments of its parent in front. -/
theorem trail_of_mem_children {u v : Site} (h : u ∈ v.children) :
    ∃ step, step ≠ [] ∧ u.trail = v.trail ++ step := by
  obtain ⟨-, p, -, rfl⟩ | ⟨-, items, -, ⟨-, -, p, -, rfl⟩ | ⟨-, rfl⟩⟩ := mem_children h
  · exact ⟨_, List.cons_ne_nil _ _, rfl⟩
  · exact ⟨_, List.cons_ne_nil _ _, rfl⟩
  · exact ⟨_, List.cons_ne_nil _ _, rfl⟩

theorem trail_prefix_of_mem_preorder {v w : Site} (h : w ∈ v.preorder) : v.trail <+: w.trail :=
  forall_mem_preorder (P := fun u => v.trail <+: u.trail)
    (fun u before w hw => by
      obtain ⟨step, -, same⟩ := trail_of_mem_children hw
      rw [same]
      exact before.trans (List.prefix_append _ _))
    (List.prefix_refl _) w h

/-- Siblings stand at the same depth. -/
theorem length_trail_eq_of_mem_children {a b v : Site} (ha : a ∈ v.children)
    (hb : b ∈ v.children) : a.trail.length = b.trail.length := by
  by_cases array : v.node.kind = some .array
  · cases hi : v.node.items with
    | none =>
      rw [children_of_no_items array hi] at ha
      cases ha
    | some items =>
      cases own : items.itemProperties with
      | some fields =>
        rw [children_of_fields array hi own] at ha hb
        obtain ⟨p, -, rfl⟩ := List.mem_map.mp ha
        obtain ⟨q, -, rfl⟩ := List.mem_map.mp hb
        simp only [trail, List.length_append, List.length_cons]
      | none =>
        rw [children_of_single array hi own] at ha hb
        rw [List.mem_singleton.mp ha, List.mem_singleton.mp hb]
  · rw [children_of_not_array array] at ha hb
    obtain ⟨p, -, rfl⟩ := List.mem_map.mp ha
    obtain ⟨q, -, rfl⟩ := List.mem_map.mp hb
    simp only [trail, List.length_append, List.length_cons]

/-! ## Plain names -/

/-- A site is plain when its tree is and no segment on the way to it holds a point. -/
def IsPlain (v : Site) : Prop := v.node.PlainNames ∧ ∀ segment ∈ v.trail, Plain segment

theorem plain_anyIndex : Plain Path.anyIndex := by decide

theorem plain_name {s : Schema} (h : s.PlainNames) : Plain (s.name?.getD "") := by
  obtain ⟨own, -, -, -⟩ := h
  cases named : s.name? with
  | none => exact List.not_mem_nil
  | some name => exact own name named

theorem isPlain_of_mem_children {u v : Site} (h : v.IsPlain) (hu : u ∈ v.children) :
    u.IsPlain := by
  obtain ⟨⟨-, -, properties, items⟩, segments⟩ := h
  obtain ⟨-, p, hp, rfl⟩ | ⟨-, i, hi, ⟨fields, own, p, hp, rfl⟩ | ⟨-, rfl⟩⟩ := mem_children hu
  · have below := properties p hp
    refine ⟨below, fun segment hs => ?_⟩
    rcases List.mem_append.mp hs with hs | hs
    · exact segments segment hs
    · exact List.mem_singleton.mp hs ▸ plain_name below
  · obtain ⟨-, -, inner, -⟩ := items i hi
    rw [← (Schema.itemProperties_eq_some_iff.mp own).2] at hp
    have below := inner p hp
    refine ⟨below, fun segment hs => ?_⟩
    rcases List.mem_append.mp hs with hs | hs
    · exact segments segment hs
    · rcases List.mem_cons.mp hs with rfl | hs
      · exact plain_anyIndex
      · exact List.mem_singleton.mp hs ▸ plain_name below
  · refine ⟨items i hi, fun segment hs => ?_⟩
    rcases List.mem_append.mp hs with hs | hs
    · exact segments segment hs
    · exact List.mem_singleton.mp hs ▸ plain_anyIndex

/-- In a plain tree every site is plain. -/
theorem isPlain_of_mem_preorder {s : Schema} {container : Path} {required : NameSet}
    (plain : s.PlainNames) :
    ∀ v ∈ (top container required s).preorder, v.IsPlain :=
  forall_mem_preorder (fun _ h _ hu => isPlain_of_mem_children h hu)
    ⟨plain, fun _ hs => List.mem_singleton.mp hs ▸ plain_name plain⟩

/-- Properties with different names lead to different segments. -/
theorem pairwise_name_ne {ps : List Schema} (distinct : (ps.filterMap Schema.name?).Nodup)
    (named : ∀ p ∈ ps, p.name? ≠ none) :
    ps.Pairwise fun p q => p.name?.getD "" ≠ q.name?.getD "" := by
  refine (List.pairwise_filterMap.mp distinct).imp_of_mem fun {p q} hp hq apart => ?_
  obtain ⟨a, ha⟩ := Option.ne_none_iff_exists'.mp (named p hp)
  obtain ⟨b, hb⟩ := Option.ne_none_iff_exists'.mp (named q hq)
  rw [ha, hb]
  exact apart a ha b hb

/-- Siblings differ in their last segment. -/
theorem pairwise_trail_ne {v : Site} (plain : v.node.PlainNames)
    (named : ∀ u ∈ v.children, u.isItem = false → u.node.name? ≠ none) :
    v.children.Pairwise fun a b => a.trail ≠ b.trail := by
  obtain ⟨-, siblings, -, items⟩ := plain
  by_cases array : v.node.kind = some .array
  · cases hi : v.node.items with
    | none =>
      rw [children_of_no_items array hi]
      exact List.Pairwise.nil
    | some i =>
      obtain ⟨-, inner, -, -⟩ := items i hi
      cases own : i.itemProperties with
      | some fields =>
        rw [(Schema.itemProperties_eq_some_iff.mp own).2] at inner
        rw [children_of_fields array hi own] at named ⊢
        have names := pairwise_name_ne inner fun p hp => named _ (List.mem_map_of_mem hp) rfl
        refine List.pairwise_map.mpr (names.imp fun apart same => ?_)
        exact apart (List.cons.inj (List.cons.inj (List.append_cancel_left same)).2).1
      | none =>
        rw [children_of_single array hi own]
        exact List.pairwise_singleton _ _
  · rw [children_of_not_array array] at named ⊢
    have names := pairwise_name_ne siblings fun p hp => named _ (List.mem_map_of_mem hp) rfl
    refine List.pairwise_map.mpr (names.imp fun apart same => ?_)
    exact apart (List.cons.inj (List.append_cancel_left same)).1

/-! ## Keys -/

/-- The segments that a site answers for: its own, and those of its items where
these have fields of their own and are no site. -/
def trails (v : Site) : List (List String) :=
  v.trail :: if v.hasItemFields then [v.trail ++ [Path.anyIndex]] else []

/-- The keys that a site answers for. -/
def keys (v : Site) : List String :=
  v.key :: if v.hasItemFields then [v.path.wildcard.key] else []

theorem keys_eq_map (v : Site) :
    v.keys = v.trails.map fun t => Path.join (v.front.segments ++ t) := by
  have own : v.key = Path.join (v.front.segments ++ v.trail) := by
    rw [key, Path.key, segments_path]
  have items :
      v.path.wildcard.key = Path.join (v.front.segments ++ (v.trail ++ [Path.anyIndex])) := by
    rw [Path.key, Path.wildcard, Path.child, segments_path, List.append_assoc]
  rw [keys, trails, own, items]
  cases v.hasItemFields <;> rfl

theorem nodup_trails (v : Site) : v.trails.Nodup := by
  rw [trails]
  cases v.hasItemFields with
  | false => exact List.nodup_singleton _
  | true =>
    refine List.nodup_cons.mpr ⟨fun h => ?_, List.nodup_singleton _⟩
    have same := congrArg List.length (List.mem_singleton.mp h)
    simp only [List.length_append, List.length_singleton] at same
    omega

theorem mem_trails {v : Site} {t : List String} :
    t ∈ v.trails ↔ t = v.trail ∨ v.hasItemFields = true ∧ t = v.trail ++ [Path.anyIndex] := by
  rw [trails, List.mem_cons]
  refine or_congr_right ?_
  split
  · next own => rw [List.mem_singleton, and_iff_right own]
  · next none =>
    constructor
    · intro absent
      cases absent
    · rintro ⟨own, -⟩
      exact (none own).elim

theorem trail_prefix_of_mem_trails {v : Site} {t : List String} (h : t ∈ v.trails) :
    v.trail <+: t := by
  rcases mem_trails.mp h with rfl | ⟨-, rfl⟩
  · exact List.prefix_refl _
  · exact List.prefix_append _ _

/-- No child stands in front of what its parent answers for. -/
theorem not_trail_prefix_of_mem_trails {u v : Site} {t : List String} (hu : u ∈ v.children)
    (h : t ∈ v.trails) : ¬ u.trail <+: t := by
  intro before
  have length := before.length_le
  rcases mem_trails.mp h with rfl | ⟨own, rfl⟩
  · obtain ⟨step, some, same⟩ := trail_of_mem_children hu
    have longer := List.length_pos_iff.mpr some
    rw [same, List.length_append] at length
    omega
  · obtain ⟨array, items, hi, fields⟩ := hasItemFields_iff.mp own
    rw [children_of_fields array hi (Schema.itemProperties_eq_some_iff.mpr ⟨fields, rfl⟩)] at hu
    obtain ⟨p, -, rfl⟩ := List.mem_map.mp hu
    simp only [trail, List.length_append, List.length_cons, List.length_nil] at length
    omega

/-- Where no two sites below the same child answer for the same segments, no two sites
below a site do, and none of them answers for what the site itself does. -/
theorem nodup_flatMap_trails_cons {v : Site} {below : Site → List Site}
    (plain : v.node.PlainNames)
    (named : ∀ u ∈ v.children, u.isItem = false → u.node.name? ≠ none)
    (stand : ∀ u ∈ v.children, ∀ w ∈ below u, w ∈ u.preorder)
    (each : ∀ u ∈ v.children, ((below u).flatMap trails).Nodup) :
    ((v :: v.children.flatMap below).flatMap trails).Nodup := by
  have front : ∀ u ∈ v.children, ∀ t ∈ (below u).flatMap trails, u.trail <+: t := by
    intro u hu t ht
    obtain ⟨w, hw, ht⟩ := List.mem_flatMap.mp ht
    exact (trail_prefix_of_mem_preorder (stand u hu w hw)).trans (trail_prefix_of_mem_trails ht)
  rw [List.flatMap_cons, List.flatMap_assoc]
  refine List.nodup_append.mpr ⟨nodup_trails v, List.nodup_flatMap.mpr ⟨each, ?_⟩, ?_⟩
  · -- two children cannot both stand in front of the same segments
    refine (pairwise_trail_ne plain named).imp_of_mem fun {a b} ha hb ne =>
      List.disjoint_left.mpr fun t hta htb => ne ?_
    have one := List.prefix_of_prefix_length_le (front a ha t hta) (front b hb t htb)
      (Nat.le_of_eq (length_trail_eq_of_mem_children ha hb))
    exact one.eq_of_length (length_trail_eq_of_mem_children ha hb)
  · intro t ht t' ht' same
    obtain ⟨u, hu, ht'⟩ := List.mem_flatMap.mp ht'
    exact not_trail_prefix_of_mem_trails hu ht (same ▸ front u hu t' ht')

/-- No two sites of a plain tree answer for the same segments. -/
theorem nodup_flatMap_trails (v : Site)
    (plain : ∀ w ∈ v.preorder, w.node.PlainNames)
    (named : ∀ w ∈ v.preorder, w.isItem = false → w.node.name? ≠ none) :
    (v.preorder.flatMap trails).Nodup := by
  induction v using children_induction with
  | step v ih =>
    rw [preorder_eq]
    refine nodup_flatMap_trails_cons (plain v (mem_preorder_self v))
      (fun u hu => named u (mem_preorder_of_mem_child hu (mem_preorder_self u)))
      (fun _ _ _ hw => hw) fun u hu => ?_
    exact ih u hu (fun w hw => plain w (mem_preorder_of_mem_child hu hw))
      fun w hw => named w (mem_preorder_of_mem_child hu hw)

/-- Plain sites behind the same path that answer for different segments answer for
different keys. -/
theorem nodup_flatMap_keys_of_trails {path : Path} {vs : List Site}
    (front : ∀ v ∈ vs, v.front = path) (plain : ∀ v ∈ vs, v.IsPlain)
    (distinct : (vs.flatMap trails).Nodup) : (vs.flatMap keys).Nodup := by
  have segments : ∀ t ∈ vs.flatMap trails, t ≠ [] ∧ ∀ segment ∈ t, Plain segment := by
    intro t ht
    obtain ⟨v, hv, ht⟩ := List.mem_flatMap.mp ht
    have own := (plain v hv).2
    rcases mem_trails.mp ht with rfl | ⟨-, rfl⟩
    · exact ⟨trail_ne_nil v, own⟩
    · refine ⟨List.append_ne_nil_of_left_ne_nil (trail_ne_nil v) _, fun segment hs => ?_⟩
      rcases List.mem_append.mp hs with hs | hs
      · exact own segment hs
      · exact List.mem_singleton.mp hs ▸ plain_anyIndex
  have joined : vs.flatMap keys =
      (vs.flatMap trails).map fun t => Path.join (path.segments ++ t) := by
    rw [List.map_flatMap]
    refine List.flatMap_congr fun v hv => ?_
    rw [keys_eq_map, front v hv]
  rw [joined]
  refine List.Nodup.map_on (fun t ht t' ht' same => ?_) distinct
  exact Path.join_append_injective (segments t ht).1 (segments t' ht').1 (segments t ht).2
    (segments t' ht').2 same

section Tree

variable {s : Schema} {container : Path} {required : NameSet}

/-- No two sites of a plain tree answer for the same key. -/
theorem nodup_flatMap_keys (plain : s.PlainNames)
    (named : ∀ v ∈ (top container required s).preorder, v.isItem = false → v.node.name? ≠ none) :
    ((top container required s).preorder.flatMap keys).Nodup :=
  nodup_flatMap_keys_of_trails (fun _ hv => front_of_mem_preorder hv)
    (isPlain_of_mem_preorder plain)
    (nodup_flatMap_trails _ (fun v hv => (isPlain_of_mem_preorder plain v hv).1) named)

/-- A key says which site answers for it. -/
theorem eq_of_mem_keys (plain : s.PlainNames)
    (named : ∀ v ∈ (top container required s).preorder, v.isItem = false → v.node.name? ≠ none)
    {v w : Site} (hv : v ∈ (top container required s).preorder)
    (hw : w ∈ (top container required s).preorder) {k : String} (hkv : k ∈ v.keys)
    (hkw : k ∈ w.keys) : v = w := by
  let Same := fun a b : Site => ∀ k, k ∈ a.keys → k ∈ b.keys → a = b
  have symmetric : Std.Symm Same := ⟨fun a b h k hb ha => (h k ha hb).symm⟩
  have apart : (top container required s).preorder.Pairwise Same :=
    (List.nodup_flatMap.mp (nodup_flatMap_keys plain named)).2.imp fun apart k ha hb =>
      (apart ha hb).elim
  exact apart.forall_of_forall (fun _ _ _ _ _ => rfl) hv hw k hkv hkw

theorem key_mem_keys (v : Site) : v.key ∈ v.keys := List.mem_cons_self

/-- Different sites have different keys. -/
theorem nodup_map_key (plain : s.PlainNames)
    (named : ∀ v ∈ (top container required s).preorder, v.isItem = false → v.node.name? ≠ none) :
    ((top container required s).preorder.map key).Nodup := by
  refine List.pairwise_map.mpr ((List.nodup_flatMap.mp (nodup_flatMap_keys plain named)).2.imp ?_)
  intro v w apart same
  exact apart (key_mem_keys v) (same ▸ key_mem_keys w)

end Tree

end Site

end PayloadRules
