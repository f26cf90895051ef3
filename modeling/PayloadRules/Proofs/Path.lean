import Mathlib.Data.List.TakeWhile
import PayloadRules.Path

/-!
# Keys split back into segments

A key joins the segments of a path with points. As long as no segment holds a
point itself, splitting the key gives the segments back, so different paths have
different keys, also when they start with the same arbitrary segments.

The first segment can be read off a key even when the segments behind it hold points
(`Path.firstSegment_join`).
-/

namespace PayloadRules

/-- Whether a segment holds no point. -/
def Plain (segment : String) : Prop := '.' ∉ segment.toList

instance (segment : String) : Decidable (Plain segment) :=
  inferInstanceAs (Decidable ('.' ∉ segment.toList))

namespace Path

theorem isRoot_child (p : Path) (segment : String) : (p.child segment).isRoot = false := by
  rw [child, isRoot, List.isEmpty_eq_false_iff]
  exact List.append_ne_nil_of_right_ne_nil _ (List.cons_ne_nil _ _)

/-- Below the root the wildcard adds a point and a star to a key. -/
theorem key_wildcard {p : Path} (below : p.isRoot = false) : p.wildcard.key = p.key ++ ".*" := by
  have some : p.segments ≠ [] := List.isEmpty_eq_false_iff.mp below
  change ".".intercalate (p.segments ++ ["*"]) = p.key ++ ".*"
  rw [String.intercalate_append_of_ne_nil some (List.cons_ne_nil _ _), String.intercalate_singleton,
    String.append_assoc]
  rfl

/-- A joined list splits at its points into what was joined. -/
theorem split_join {segments : List String} (some : segments ≠ [])
    (plain : ∀ s ∈ segments, Plain s) :
    ((join segments).split '.').toList.map (·.copy) = segments := by
  have split := String.toList_split_intercalate (c := '.') plain
  rw [if_neg some] at split
  exact split

theorem join_injective {l m : List String} (hl : l ≠ []) (hm : m ≠ []) (plainL : ∀ s ∈ l, Plain s)
    (plainM : ∀ s ∈ m, Plain s) (same : join l = join m) : l = m := by
  rw [← split_join hl plainL, ← split_join hm plainM, same]

/-- Behind the same front, different plain segments give different keys. -/
theorem join_append_injective {front l m : List String} (hl : l ≠ []) (hm : m ≠ [])
    (plainL : ∀ s ∈ l, Plain s) (plainM : ∀ s ∈ m, Plain s)
    (same : join (front ++ l) = join (front ++ m)) : l = m := by
  cases front with
  | nil => exact join_injective hl hm plainL plainM same
  | cons s rest =>
    have front : s :: rest ≠ [] := List.cons_ne_nil s rest
    refine join_injective hl hm plainL plainM ?_
    rw [join, join, String.intercalate_append_of_ne_nil front hl,
      String.intercalate_append_of_ne_nil front hm] at same
    exact String.append_right_inj _ |>.mp same

/-- The part of a key before its first point. -/
def firstSegment (key : String) : String := String.ofList (key.toList.takeWhile (· ≠ '.'))

/-- A key begins with its first segment, if that is plain; the others may hold points. -/
theorem firstSegment_join {name : String} (plain : Plain name) (rest : List String) :
    firstSegment (join (name :: rest)) = name := by
  have clear : ∀ c ∈ name.toList, decide (c ≠ '.') = true :=
    fun c hc => decide_eq_true fun point => plain (point ▸ hc)
  cases rest with
  | nil =>
    rw [join, String.intercalate_singleton, firstSegment, List.takeWhile_eq_self_iff.mpr clear,
      String.ofList_toList]
  | cons r rest =>
    have point : ".".toList = ['.'] := by decide
    rw [join, String.intercalate_cons_of_ne_nil (List.cons_ne_nil r rest), firstSegment,
      String.toList_append, String.toList_append, point, List.append_assoc,
      List.takeWhile_append_of_pos clear, List.singleton_append,
      List.takeWhile_cons_of_neg (by decide), List.append_nil, String.ofList_toList]

/-- There is one point between any two segments that follow each other. -/
theorem count_join {segments : List String} (some : segments ≠ [])
    (plain : ∀ s ∈ segments, Plain s) :
    (join segments).toList.count '.' + 1 = segments.length := by
  induction segments with
  | nil => exact absurd rfl some
  | cons s rest ih =>
    have own : s.toList.count '.' = 0 := List.count_eq_zero.mpr (plain s List.mem_cons_self)
    cases rest with
    | nil =>
      rw [join, String.intercalate_singleton, own]
      rfl
    | cons r rest =>
      have ne : r :: rest ≠ [] := List.cons_ne_nil r rest
      have below := ih ne fun t ht => plain t (List.mem_cons_of_mem _ ht)
      rw [join, String.intercalate_cons_of_ne_nil ne, String.toList_append, String.toList_append,
        List.count_append, List.count_append, own, ← join]
      have point : ".".toList.count '.' = 1 := by decide
      rw [point, List.length_cons]
      omega

end Path

end PayloadRules
