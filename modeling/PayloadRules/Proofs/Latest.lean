import Mathlib.Data.List.Basic

/-!
# What was said last

A catalog is given templates and a registry rule objects and aliases, one call at a time.
Both keep what a call tells of a key in front of what was said before, so a look-up finds
what was said last (`lookup_foldl`).

A call tells something of one key or of none. About all other keys it is silent: it can be
left out of the history, or change places with its neighbour, and no look-up of such a key
notices (`latest?_without`, `latest?_swap`). Calls that never tell of the same key come in any
order (`latest?_perm`).
-/

namespace PayloadRules

variable {β κ α : Type} [BEq κ]

/-- What the last call that tells something of a key tells of it. -/
def latest? (tells : β → Option (κ × α)) (calls : List β) (key : κ) : Option α :=
  (calls.filterMap tells).reverse.lookup key

/-- Whether a call tells nothing of a key. -/
def Silent (tells : β → Option (κ × α)) (call : β) (key : κ) : Prop :=
  ∀ value, tells call ≠ some (key, value)

variable {tells : β → Option (κ × α)} {calls others : List β} {a b call : β} {key : κ}
  {value : α}

/-! ## Histories put together -/

/-- A later call counts before an earlier one. -/
theorem latest?_append (earlier later : List β) :
    latest? tells (earlier ++ later) key =
      (latest? tells later key).or (latest? tells earlier key) := by
  unfold latest?
  rw [List.filterMap_append, List.reverse_append, List.lookup_append]

theorem latest?_cons (call : β) (later : List β) :
    latest? tells (call :: later) key =
      (latest? tells later key).or (latest? tells [call] key) :=
  latest?_append [call] later

theorem latest?_single_eq_some_iff [LawfulBEq κ] :
    latest? tells [call] key = some value ↔ tells call = some (key, value) := by
  unfold latest?
  cases told : tells call with
  | none => simp [told]
  | some entry =>
    obtain ⟨k, v⟩ := entry
    by_cases same : key = k
    · subst same
      simp [told]
    · have other : (key == k) = false := by simpa using same
      simp [told, List.lookup_cons, other, Ne.symm same]

theorem latest?_single_eq_none_iff [LawfulBEq κ] :
    latest? tells [call] key = none ↔ Silent tells call key := by
  rw [Option.eq_none_iff_forall_ne_some]
  exact forall_congr' fun value => not_congr latest?_single_eq_some_iff

/-- A call that is silent about a key can be left out. -/
theorem latest?_without [LawfulBEq κ] (silent : Silent tells call key) (before after : List β) :
    latest? tells (before ++ call :: after) key = latest? tells (before ++ after) key := by
  rw [latest?_append, latest?_cons, latest?_single_eq_none_iff.mpr silent, Option.or_none,
    ← latest?_append]

/-- Neighbours change places when one of them is silent about the key. -/
theorem latest?_swap [LawfulBEq κ] (silent : Silent tells a key ∨ Silent tells b key)
    (before after : List β) :
    latest? tells (before ++ a :: b :: after) key =
      latest? tells (before ++ b :: a :: after) key := by
  have pair : latest? tells (a :: b :: after) key = latest? tells (b :: a :: after) key := by
    rw [latest?_cons a, latest?_cons b after, latest?_cons b (a :: after), latest?_cons a after]
    rcases silent with silent | silent
    · rw [latest?_single_eq_none_iff.mpr silent, Option.or_none, Option.or_none]
    · rw [latest?_single_eq_none_iff.mpr silent, Option.or_none, Option.or_none]
  rw [latest?_append, latest?_append, pair]

/-- Calls come in any order when of any two of them one is silent about the key. -/
theorem latest?_perm [LawfulBEq κ] (perm : calls.Perm others)
    (apart : calls.Pairwise fun a b => Silent tells a key ∨ Silent tells b key) :
    latest? tells calls key = latest? tells others key := by
  induction perm with
  | nil => rfl
  | @cons call front back _ ih =>
    rw [latest?_cons call front, latest?_cons call back, ih (List.pairwise_cons.mp apart).2]
  | swap a b rest =>
    have silent := (List.pairwise_cons.mp apart).1 a List.mem_cons_self
    exact latest?_swap silent [] rest
  | trans first _ ih₁ ih₂ => rw [ih₁ apart, ih₂ (first.pairwise apart Or.symm)]

/-! ## What a history tells -/

theorem latest?_eq_none_iff [LawfulBEq κ] :
    latest? tells calls key = none ↔ ∀ call ∈ calls, Silent tells call key := by
  induction calls with
  | nil => simp [latest?]
  | cons call rest ih =>
    rw [latest?_cons, Option.or_eq_none_iff, ih, latest?_single_eq_none_iff,
      List.forall_mem_cons, and_comm]

/-- The last call that tells something of the key has only silent ones behind it. -/
theorem latest?_eq_some_iff [LawfulBEq κ] :
    latest? tells calls key = some value ↔
      ∃ before call after, calls = before ++ call :: after ∧ tells call = some (key, value) ∧
        ∀ later ∈ after, Silent tells later key := by
  constructor
  · intro found
    induction calls with
    | nil => cases found
    | cons call rest ih =>
      rw [latest?_cons, Option.or_eq_some_iff] at found
      -- either a later call tells of the key, or all later ones are silent and this one does
      rcases found with found | ⟨none, found⟩
      · obtain ⟨before, last, after, rfl, told, silent⟩ := ih found
        exact ⟨call :: before, last, after, rfl, told, silent⟩
      · exact ⟨[], call, rest, rfl, latest?_single_eq_some_iff.mp found,
          latest?_eq_none_iff.mp none⟩
  · rintro ⟨before, call, after, rfl, told, silent⟩
    rw [latest?_append, latest?_cons, latest?_eq_none_iff.mpr silent,
      latest?_single_eq_some_iff.mpr told]
    rfl

/-! ## The state after a history -/

/-- Entries that every call puts in front are in the end those of the calls, the last one
first, before those that were there. -/
theorem entries_foldl {σ ε : Type} {step : σ → β → σ} (entries : σ → List ε)
    {tells : β → Option ε}
    (adds : ∀ s call, entries (step s call) = (tells call).toList ++ entries s)
    (s : σ) (calls : List β) :
    entries (calls.foldl step s) = (calls.filterMap tells).reverse ++ entries s := by
  induction calls generalizing s with
  | nil => rfl
  | cons call rest ih =>
    rw [List.foldl_cons, ih, adds]
    cases told : tells call <;> simp [told]

/-- What a look-up finds after some calls: what was said last, or what was there. -/
theorem lookup_foldl {σ : Type} {step : σ → β → σ} (entries : σ → List (κ × α))
    (adds : ∀ s call, entries (step s call) = (tells call).toList ++ entries s)
    (s : σ) (calls : List β) (key : κ) :
    (entries (calls.foldl step s)).lookup key =
      (latest? tells calls key).or ((entries s).lookup key) := by
  rw [entries_foldl entries adds, List.lookup_append]
  rfl

end PayloadRules
