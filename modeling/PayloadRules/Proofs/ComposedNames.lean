import PayloadRules.Proofs.RequiredLists
import PayloadRules.Request.Basic

/-!
# Required names of composed fragments

The names required at the top of a request are collected set by set. Every fragment has a
set of its own, into which the sets of the fragments it includes are united, and a request
does the same once more with all of its fragments.

Nothing of this nesting is left in the result. Uniting with a set of names that come from a
list is the same as inserting the list, repetitions and all (`NameSet.union_ofList`). So
every set is made from one long list, in which the lists of all fragments stand one behind
the other, depth first and each fragment behind those it includes, and the list of the
request comes last (`Fragment.requiredSet_eq_ofList`).
-/

namespace PayloadRules

/-- Names without repetitions stand in the order in which they first came. -/
theorem pairwise_idxOf_eraseDups {α : Type} [BEq α] [LawfulBEq α] (l : List α) :
    l.eraseDups.Pairwise fun a b => l.idxOf a < l.idxOf b := by
  induction l using List.reverseRecOn with
  | nil => exact List.Pairwise.nil
  | append_singleton l last ih =>
    have kept (a : α) (ha : a ∈ l.eraseDups) : (l ++ [last]).idxOf a = l.idxOf a :=
      List.idxOf_append_of_mem (List.mem_eraseDups.mp ha)
    have old : l.eraseDups.Pairwise fun a b => (l ++ [last]).idxOf a < (l ++ [last]).idxOf b :=
      ih.imp_of_mem fun ha hb earlier => by rwa [kept _ ha, kept _ hb]
    rw [List.eraseDups_append, List.pairwise_append]
    by_cases there : last ∈ l
    · simp [List.removeAll, there, old]
    · refine ⟨old, by simp [List.removeAll, there, List.eraseDups_cons], fun a ha b hb => ?_⟩
      have new : b = last := by simpa [List.removeAll, there, List.eraseDups_cons] using hb
      rw [new, kept a ha, List.idxOf_append_of_notMem there]
      exact Nat.lt_add_right _ (List.idxOf_lt_length_of_mem (List.mem_eraseDups.mp ha))

namespace NameSet

/-- No name of a set is repeated. -/
theorem eraseDups_names (s : NameSet) : s.names.eraseDups = s.names := by
  rw [← names_ofList, ofList_names]

/-- A set is united with the names of a list by inserting the list. -/
theorem union_ofList (s : NameSet) (names : List String) :
    s.union (ofList names) = s.insertAll names := by
  apply ext_names
  rw [union, names_insertAll, names_insertAll, eraseDups_names, names_ofList]

end NameSet

namespace Fragment

/-! ## All that is listed -/

/-- The names a fragment lists itself; an absent list has none. -/
def own : Fragment → List String
  | mk _ required _ => required.getD []

/-- The fragments a fragment includes. -/
def includes : Fragment → List Fragment
  | mk _ _ includes => includes

mutual

/-- All names that are listed in a fragment, with their repetitions: those in the fragments
it includes, depth first, then its own. -/
def listed : Fragment → List String
  | mk _ required includes => listedInAll includes ++ required.getD []

/-- All names that are listed in fragments, from left to right. -/
def listedInAll : List Fragment → List String
  | [] => []
  | f :: rest => f.listed ++ listedInAll rest

end

/-- A fragment that stands among fragments or is included in one of them at any depth. -/
inductive Within (f : Fragment) : List Fragment → Prop
  | here {fs : List Fragment} (member : f ∈ fs) : Within f fs
  | deeper {fs : List Fragment} {g : Fragment} (member : g ∈ fs) (inside : Within f g.includes) :
    Within f fs

theorem listedInAll_eq_flatMap (fs : List Fragment) : listedInAll fs = fs.flatMap listed := by
  induction fs with
  | nil => rfl
  | cons f rest ih => rw [listedInAll, ih, List.flatMap_cons]

/-- What is listed in a fragment is listed by itself or by one inside it. -/
theorem mem_listed (f : Fragment) (name : String) :
    name ∈ f.listed ↔ (∃ g, Within g f.includes ∧ name ∈ g.own) ∨ name ∈ f.own := by
  induction f using includes_induction with
  | step _ required fs ih =>
    rw [listed, List.mem_append, listedInAll_eq_flatMap, List.mem_flatMap]
    refine or_congr_left ⟨?_, ?_⟩
    · rintro ⟨g, member, there⟩
      rcases (ih g member).mp there with ⟨h, inside, there⟩ | there
      · exact ⟨h, .deeper member inside, there⟩
      · exact ⟨g, .here member, there⟩
    · rintro ⟨h, member | ⟨member, inside⟩, there⟩
      · exact ⟨h, member, (ih h member).mpr (Or.inr there)⟩
      · exact ⟨_, member, (ih _ member).mpr (Or.inl ⟨h, inside, there⟩)⟩

/-! ## All that is required -/

/-- Fragments add what is listed in them, each as a set of its own. -/
theorem requiredOfAll_eq_insertAll {fs : List Fragment}
    (each : ∀ f ∈ fs, f.requiredSet = NameSet.ofList f.listed) (names : NameSet) :
    requiredOfAll names fs = names.insertAll (listedInAll fs) := by
  induction fs generalizing names with
  | nil => rfl
  | cons f rest ih =>
    obtain ⟨first, others⟩ := List.forall_mem_cons.mp each
    rw [requiredOfAll, ih others, first, NameSet.union_ofList, listedInAll,
      NameSet.insertAll_append]

theorem requiredSet_eq_ofList (f : Fragment) : f.requiredSet = NameSet.ofList f.listed := by
  induction f using includes_induction with
  | step _ required fs ih =>
    rw [requiredSet, requiredOfAll_eq_insertAll ih, NameSet.ofDeclared, NameSet.union_ofList,
      listed, NameSet.ofList, NameSet.insertAll_append]

end Fragment

namespace Request

/-- All names that are listed for the top of a request, with their repetitions: those in its
fragments, then its own. -/
def listed (r : Request) : List String :=
  Fragment.listedInAll r.includes ++ r.required.getD []

/-- What is required at the top of a request is what is listed for it, each name once. The
lists of all fragments are put together, depth first and each fragment behind those it
includes, with the list of the request at the end, and of equal names the first stays. So a
name is required when the request or a fragment at any depth lists it; no name is required
twice; and the names stand in the order in which they first came. -/
theorem required_names_are_the_listed (r : Request) :
    r.requiredSet.names = r.listed.eraseDups ∧
      (∀ name, name ∈ r.requiredSet ↔
        (∃ f, Fragment.Within f r.includes ∧ name ∈ f.own) ∨ name ∈ r.required.getD []) ∧
      r.requiredSet.names.Nodup ∧
      r.requiredSet.names.Pairwise fun a b => r.listed.idxOf a < r.listed.idxOf b := by
  -- a request collects names as a fragment does
  let top : Fragment := .mk r.name r.required r.includes
  have united : r.requiredSet = NameSet.ofList r.listed := top.requiredSet_eq_ofList
  have names : r.requiredSet.names = r.listed.eraseDups := by
    rw [united, NameSet.names_ofList]
  refine ⟨names, fun name => ?_, r.requiredSet.nodup, ?_⟩
  · rw [united, NameSet.mem_ofList]
    exact top.mem_listed name
  · rw [names]
    exact pairwise_idxOf_eraseDups r.listed

/-- An inner fragment comes before the one that includes it, and a name that both list keeps
the earlier place. -/
example :
    let page : Fragment := .mk "Page" (some ["size", "page"]) []
    let search : Fragment := .mk "Search" (some ["q", "size"]) [page]
    ({ name := "Find", includes := [search], required := some ["page", "lang"] } :
      Request).requiredSet.names = ["size", "page", "q", "lang"] := by decide

end Request

end PayloadRules
