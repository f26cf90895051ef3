import PayloadRules.Json.Members
import PayloadRules.Proofs.Table

/-!
# Reading back

A reader takes many spellings for the same thing and a writer has one, so a value need not
come back as it was. What was read from it does: what a reader has answered once it answers
again when it reads what is written for it (`Json.ReadsBack`). This is said of a single
answer and not of the reader, so that it can be carried down a tree of answers.

Members are compared slot by slot. A slot is a known name and the value written under it, if
any. The members written for a list of slots are all known, none of them is repeated, and
each slot is found again (`Json.Members.holds_ofSlots`), whatever was left out.
-/

namespace PayloadRules

namespace Json

/-! ## Settled values -/

theorem uniqueMembers_eq_map (members : List (String × Json)) :
    uniqueMembers members = members.map fun m => (m.1, unique m.2) := by
  induction members with
  | nil => rfl
  | cons m rest ih => rw [uniqueMembers, ih, List.map_cons]

/-- Members with settled values stay as they are. -/
theorem uniqueMembers_of_settled {members : List (String × Json)}
    (settled : ∀ m ∈ members, unique m.2 = m.2) : uniqueMembers members = members := calc
  uniqueMembers members = members.map id := by
    rw [uniqueMembers_eq_map]
    exact List.map_congr_left fun m hm => Prod.ext rfl (settled m hm)
  _ = members := List.map_id members

/-- A table of the latest members settles nothing that was not among the members. -/
theorem entries_ofLatest_of_settled {members : List (String × Json)}
    (settled : ∀ m ∈ members, unique m.2 = m.2) :
    (Table.ofLatest (uniqueMembers (Table.ofLatest members).entries)).entries =
      (Table.ofLatest members).entries := by
  have kept : uniqueMembers (Table.ofLatest members).entries = (Table.ofLatest members).entries :=
    uniqueMembers_of_settled fun m hm => settled m (Table.mem_of_mem_ofLatest hm)
  rw [kept, Table.entries_ofLatest_of_nodup (Table.ofLatest members).nodup]

mutual

/-- Settling once is enough. -/
theorem unique_unique : ∀ v : Json, unique (unique v) = unique v
  | .arr items => by simp only [unique, uniqueItems_uniqueItems items]
  | .obj members => by
    simp only [unique, entries_ofLatest_of_settled (settled_uniqueMembers members)]
  | .str _ => by simp only [unique]
  | .num _ => by simp only [unique]
  | .bool _ => by simp only [unique]
  | .null => by simp only [unique]

theorem uniqueItems_uniqueItems : ∀ items : List Json,
    uniqueItems (uniqueItems items) = uniqueItems items
  | [] => by simp only [uniqueItems]
  | v :: rest => by simp only [uniqueItems, unique_unique v, uniqueItems_uniqueItems rest]

theorem settled_uniqueMembers : ∀ members : List (String × Json),
    ∀ m ∈ uniqueMembers members, unique m.2 = m.2
  | [], _, hm => by
    rw [uniqueMembers] at hm
    cases hm
  | (k, v) :: rest, m, hm => by
    rw [uniqueMembers] at hm
    rcases List.mem_cons.mp hm with rfl | hm
    · exact unique_unique v
    · exact settled_uniqueMembers rest m hm

end

/-! ## Answers that are read back -/

section ReadsBack

variable {α : Type} {read : Json → Option α} {write : α → Json}

/-- Whether an answer of a reader is its answer again to what is written for it, which is
not null. -/
def ReadsBack (read : Json → Option α) (write : α → Json) (a : α) : Prop :=
  ∀ v, read v = some a → write a ≠ .null ∧ read (write a) = some a

theorem asString?_readsBack (s : String) : ReadsBack asString? .str s :=
  fun _ _ => ⟨Json.noConfusion, rfl⟩

theorem asBool?_readsBack (b : Bool) : ReadsBack asBool? .bool b :=
  fun _ _ => ⟨Json.noConfusion, rfl⟩

theorem asNumber?_readsBack (n : Number) : ReadsBack asNumber? .num n :=
  fun _ _ => ⟨Json.noConfusion, rfl⟩

theorem asNat?_ofNat (n : Nat) : asNat? (ofNat n) = some n := by
  simp only [ofNat, asNat?, Int.natCast_nonneg, if_true, Int.toNat_natCast]

theorem asNat?_readsBack (n : Nat) : ReadsBack asNat? ofNat n :=
  fun _ _ => ⟨Json.noConfusion, asNat?_ofNat n⟩

/-- The items of a list that is read have been read. -/
theorem exists_of_mem_of_asList? {v : Json} {l : List α} (taken : asList? read v = some l) :
    ∀ a ∈ l, ∃ w, read w = some a := by
  cases v with
  | arr items =>
    change items.mapM read = some l at taken
    induction items generalizing l with
    | nil =>
      cases taken
      exact fun _ h => (nomatch h)
    | cons w rest ih =>
      simp only [List.mapM_cons, Option.bind_eq_bind, Option.bind_eq_some_iff] at taken
      obtain ⟨a, first, others, tail, same⟩ := taken
      cases same
      intro b hb
      rcases List.mem_cons.mp hb with rfl | hb
      · exact ⟨w, first⟩
      · exact ih tail b hb
  | _ => cases taken

theorem asList?_map {l : List α} (back : ∀ a ∈ l, read (write a) = some a) :
    asList? read (.arr (l.map write)) = some l := by
  change (l.map write).mapM read = some l
  induction l with
  | nil => rfl
  | cons a rest ih =>
    rw [List.map_cons, List.mapM_cons, back a List.mem_cons_self,
      ih fun b hb => back b (List.mem_cons_of_mem a hb)]
    rfl

/-- A list is read back when its items are. -/
theorem asList?_readsBack {l : List α} (back : ∀ a ∈ l, ReadsBack read write a) :
    ReadsBack (asList? read) (fun l => .arr (l.map write)) l := by
  intro v taken
  refine ⟨Json.noConfusion, asList?_map fun a ha => ?_⟩
  obtain ⟨w, item⟩ := exists_of_mem_of_asList? taken a ha
  exact (back a ha w item).2

theorem asStrings?_readsBack (l : List String) : ReadsBack (asList? asString?) ofStrings l :=
  asList?_readsBack fun s _ => asString?_readsBack s

/-- A table that is read has settled values, so it is read back as it is. -/
theorem asTable?_readsBack (t : Table Json) : ReadsBack asTable? (fun t => .obj t.entries) t := by
  intro v taken
  refine ⟨Json.noConfusion, ?_⟩
  cases v with
  | obj members =>
    cases taken
    exact congrArg some
      (Table.ext_entries (entries_ofLatest_of_settled (settled_uniqueMembers members)))
  | _ => cases taken

end ReadsBack

/-! ## Slots -/

namespace Members

/-- A known name and what stands there, if anything. -/
abbrev Slot := String × Option Json

/-- The members of the slots that are not empty. -/
def ofSlots (slots : List Slot) : Members := slots.flatMap fun e => member? e.1 id e.2

/-- Whether members have under each name what the slots say. -/
def Holds (ms : Members) (slots : List Slot) : Prop := ∀ e ∈ slots, ms.lookup e.1 = e.2

/-- What is written for a list, nothing for an empty one. -/
def listSlot : List Json → Option Json
  | [] => none
  | items => some (.arr items)

/-- What is written for a table, nothing for an empty one. -/
def tableSlot (t : Table Json) : Option Json := if t.isEmpty then none else some (.obj t.entries)

theorem member?_map {α : Type} (name : String) (write : α → Json) (x : Option α) :
    member? name id (x.map write) = member? name write x := by
  cases x <;> rfl

theorem member?_listSlot (name : String) (items : List Json) :
    member? name id (listSlot items) = listMember name items := by
  cases items <;> rfl

theorem member?_tableSlot (name : String) (t : Table Json) :
    member? name id (tableSlot t) = tableMember name t := by
  rw [tableSlot, tableMember]
  cases t.isEmpty <;> rfl

variable {slots : List Slot}

theorem ofSlots_cons (e : Slot) (slots : List Slot) :
    ofSlots (e :: slots) = member? e.1 id e.2 ++ ofSlots slots := List.flatMap_cons

theorem ofSlots_append (slots more : List Slot) :
    ofSlots (slots ++ more) = ofSlots slots ++ ofSlots more := List.flatMap_append

theorem holds_nil (ms : Members) : ms.Holds [] := List.forall_mem_nil _

theorem holds_cons {ms : Members} {e : Slot} :
    ms.Holds (e :: slots) ↔ ms.lookup e.1 = e.2 ∧ ms.Holds slots := List.forall_mem_cons

theorem holds_append {ms : Members} {more : List Slot} :
    ms.Holds (slots ++ more) ↔ ms.Holds slots ∧ ms.Holds more := List.forall_mem_append

/-- What is written stands in its slot. -/
theorem mem_ofSlots {name : String} {v : Json} :
    (name, v) ∈ ofSlots slots ↔ (name, some v) ∈ slots := by
  rw [ofSlots, List.mem_flatMap]
  constructor
  · rintro ⟨⟨other, value⟩, there, written⟩
    cases value with
    | none => cases written
    | some w =>
      cases List.mem_singleton.mp written
      exact there
  · exact fun there => ⟨_, there, List.mem_singleton_self _⟩

/-- Slots that are left out have no names. -/
theorem names_ofSlots_sublist (slots : List Slot) :
    ((ofSlots slots).map Prod.fst).Sublist (slots.map Prod.fst) := by
  induction slots with
  | nil => exact List.Sublist.slnil
  | cons e rest ih =>
    rw [ofSlots_cons, List.map_append, List.map_cons]
    obtain ⟨name, value⟩ := e
    cases value with
    | none => exact ih.cons name
    | some v => exact ih.cons_cons name

/-- Each slot is found among the members that are written for all of them. -/
theorem holds_ofSlots (distinct : (slots.map Prod.fst).Nodup) : (ofSlots slots).Holds slots := by
  induction slots with
  | nil => exact fun _ h => (nomatch h)
  | cons e rest ih =>
    obtain ⟨name, value⟩ := e
    obtain ⟨new, others⟩ := List.nodup_cons.mp distinct
    intro slot there
    rw [ofSlots_cons, List.lookup_append]
    rcases List.mem_cons.mp there with rfl | behind
    · have absent : (ofSlots rest).lookup name = none := by
        rw [List.lookup_eq_none_iff]
        intro m hm
        have other : m.1 ≠ name := fun same =>
          new (same ▸ (names_ofSlots_sublist rest).subset (List.mem_map_of_mem hm))
        exact bne_iff_ne.mpr (Ne.symm other)
      rw [absent, Option.or_none]
      cases value with
      | none => rfl
      | some v => exact List.lookup_cons_self
    · have named : slot.1 ∈ rest.map Prod.fst := List.mem_map_of_mem behind
      have other : slot.1 ≠ name := fun same => new (same ▸ named)
      have skipped : (member? name id value).lookup slot.1 = none := by
        cases value with
        | none => rfl
        | some v => rw [member?, lookup_cons_eq_ite, if_neg other, List.lookup_nil]
      rw [skipped, Option.none_or]
      exact ih others slot behind

/-- All members that are written for slots are known, and none is repeated. -/
theorem object?_ofSlots (distinct : (slots.map Prod.fst).Nodup) :
    object? (slots.map Prod.fst) (.obj (ofSlots slots)) = some (ofSlots slots) := by
  have part := names_ofSlots_sublist slots
  have known : (ofSlots slots).filter (fun m => (slots.map Prod.fst).contains m.1) =
      ofSlots slots := by
    rw [List.filter_eq_self]
    intro m hm
    exact List.contains_iff_mem.mpr (part.subset (List.mem_map_of_mem hm))
  simp only [object?, known]
  exact if_pos (part.nodup distinct)

/-- What is written under distinct names is accepted under these names, and holds the slots. -/
theorem exists_written {names : List String} (named : slots.map Prod.fst = names)
    (distinct : names.Nodup) :
    ∃ written, ofSlots slots = written ∧ object? names (.obj written) = some written ∧
      written.Holds slots := by
  subst named
  exact ⟨_, rfl, object?_ofSlots distinct, holds_ofSlots distinct⟩

/-! ## Members that are read back -/

section Readers

variable {α : Type} {read : Json → Option α} {write : α → Json} {ms written : Members}
  {name : String}

theorem required?_of_read {v : Json} {a : α} (there : written.lookup name = some v)
    (value : read v = some a) : written.required? name read = some a := by
  rw [required?, there]
  exact value

theorem required?_of_lookup {a : α} (back : ReadsBack read write a)
    (taken : ms.required? name read = some a) (there : written.lookup name = some (write a)) :
    written.required? name read = some a := by
  obtain ⟨v, -, value⟩ := Option.bind_eq_some_iff.mp taken
  exact required?_of_read there (back v value).2

theorem optional?_of_read {x : Option α} (there : written.lookup name = x.map write)
    (back : ∀ a ∈ x, write a ≠ .null ∧ read (write a) = some a) :
    written.optional? name read = some x := by
  rw [optional?, there]
  cases x with
  | none => rfl
  | some a =>
    obtain ⟨solid, again⟩ := back a rfl
    rw [Option.map_some]
    split
    · next absent => cases absent
    · next null => exact (solid (Option.some.inj null)).elim
    · next w _ present =>
      cases present
      rw [again]
      rfl

theorem optional?_of_lookup {x : Option α} (back : ∀ a ∈ x, ReadsBack read write a)
    (taken : ms.optional? name read = some x) (there : written.lookup name = x.map write) :
    written.optional? name read = some x := by
  refine optional?_of_read there fun a ha => ?_
  obtain rfl : x = some a := ha
  obtain ⟨v, value⟩ : ∃ v, read v = some a := by
    unfold optional? at taken
    split at taken
    · cases taken
    · cases taken
    · next v _ _ =>
      obtain ⟨b, value, same⟩ := Option.map_eq_some_iff.mp taken
      cases same
      exact ⟨v, value⟩
  exact back a rfl v value

theorem exists_of_mem_of_defaulted? {l : List α}
    (taken : ms.defaulted? name [] (asList? read) = some l) : ∀ a ∈ l, ∃ v, read v = some a := by
  unfold defaulted? at taken
  split at taken
  · cases taken
    exact fun _ h => (nomatch h)
  · exact exists_of_mem_of_asList? taken

/-- A list that may be left out, and is when it is empty. -/
theorem defaulted?_list_of_lookup {l : List α} (back : ∀ a ∈ l, ReadsBack read write a)
    (taken : ms.defaulted? name [] (asList? read) = some l)
    (there : written.lookup name = listSlot (l.map write)) :
    written.defaulted? name [] (asList? read) = some l := by
  rw [defaulted?, there]
  cases l with
  | nil => rfl
  | cons b rest =>
    refine asList?_map fun a ha => ?_
    obtain ⟨v, value⟩ := exists_of_mem_of_defaulted? taken a ha
    exact (back a ha v value).2

/-- A list that may be left out, and never is. -/
theorem defaulted?_full_list_of_lookup {l : List α} (back : ∀ a ∈ l, ReadsBack read write a)
    (taken : ms.defaulted? name [] (asList? read) = some l)
    (there : written.lookup name = some (.arr (l.map write))) :
    written.defaulted? name [] (asList? read) = some l := by
  rw [defaulted?, there]
  refine asList?_map fun a ha => ?_
  obtain ⟨v, value⟩ := exists_of_mem_of_defaulted? taken a ha
  exact (back a ha v value).2

theorem defaulted?_table_of_lookup {t : Table Json}
    (taken : ms.defaulted? name Table.empty asTable? = some t)
    (there : written.lookup name = tableSlot t) :
    written.defaulted? name Table.empty asTable? = some t := by
  rw [defaulted?, there, tableSlot]
  cases empty : t.isEmpty with
  | true => exact congrArg some (Table.ext_entries (List.isEmpty_iff.mp empty).symm)
  | false =>
    unfold defaulted? at taken
    split at taken
    · cases taken
      cases empty
    · next v _ => exact (asTable?_readsBack t v taken).2

end Readers

end Members

end Json

end PayloadRules
