import Mathlib.Data.Option.Basic
import PayloadRules.Proofs.DeclaredTypes
import PayloadRules.Proofs.Form.Schema
import PayloadRules.Request.Form

/-!
# Definitions are read back

Fields, fragments and requests may be given as objects or as lists of their members, with
members left out, with nulls and with members that nobody knows. They are written as objects
in one way, and what has been read is read back from what is written.

A definitions file holds a list of requests or a single one. A list may stand for a single
request too, but such a list begins with a name, and a name is no request. So there is no
file that can be read in both ways, and it does not matter which way is tried first.
-/

namespace PayloadRules

open Json

/-! ## Declared types -/

/-- A type is read back from its own text, which need not be the text it came from. -/
theorem DeclaredType.readsBack (t : DeclaredType) : ReadsBack ofJson? toJson t := by
  intro v taken
  refine ⟨Json.noConfusion, ?_⟩
  cases v with
  | str s =>
    cases read : parse s with
    | error e =>
      rw [ofJson?, read] at taken
      cases taken
    | ok found =>
      rw [ofJson?, read] at taken
      cases taken
      rw [toJson, ofJson?, parse_text_of_parse read]
      rfl
  | _ => cases taken

/-! ## Fields -/

namespace Field

/-- What is written for a field. -/
def slots (f : Field) : List Members.Slot :=
  [("name", some (.str f.name)), ("type", some f.declared.toJson),
    ("schema", f.schema.map Schema.toJson), ("binding", f.binding.map Binding.toJson)]

theorem map_fst_slots (f : Field) : f.slots.map Prod.fst = names := rfl

theorem toJson_eq (f : Field) : f.toJson = .obj (Members.ofSlots f.slots) := by
  simp only [toJson, slots, Members.ofSlots, List.flatMap_cons, List.flatMap_nil,
    Members.member?_map, List.append_assoc, List.append_nil]
  rfl

theorem ofJson?_eq_some_iff {v : Json} {f : Field} :
    ofJson? v = some f ↔ ∃ ms, record? names v = some ms ∧
      ms.required? "name" asString? = some f.name ∧
      ms.required? "type" DeclaredType.ofJson? = some f.declared ∧
      ms.optional? "schema" Schema.ofJson? = some f.schema ∧
      ms.optional? "binding" Binding.ofJson? = some f.binding := by
  simp only [ofJson?, Option.bind_eq_bind, Option.bind_eq_some_iff, Option.pure_def,
    Option.some_inj]
  constructor
  · rintro ⟨ms, h, _, h1, _, h2, _, h3, _, h4, rfl⟩
    exact ⟨ms, h, h1, h2, h3, h4⟩
  · rintro ⟨ms, h, h1, h2, h3, h4⟩
    exact ⟨ms, h, _, h1, _, h2, _, h3, _, h4, rfl⟩

theorem readsBack (f : Field) : ReadsBack ofJson? toJson f := by
  intro v taken
  refine ⟨Json.noConfusion, ?_⟩
  obtain ⟨ms, -, name, declared, schema, binding⟩ := ofJson?_eq_some_iff.mp taken
  obtain ⟨written, members, known, holds⟩ := Members.exists_written f.map_fst_slots (by decide)
  rw [toJson_eq, members]
  refine ofJson?_eq_some_iff.mpr ⟨written, known, ?_⟩
  simp only [slots, Members.holds_cons, Members.holds_nil, and_true] at holds
  obtain ⟨h1, h2, h3, h4⟩ := holds
  exact ⟨Members.required?_of_lookup (asString?_readsBack f.name) name h1,
    Members.required?_of_lookup f.declared.readsBack declared h2,
    Members.optional?_of_lookup (fun s _ => s.readsBack) schema h3,
    Members.optional?_of_lookup (fun b _ => b.readsBack) binding h4⟩

end Field

/-! ## Fragments -/

namespace Fragment

/-- What is written for a fragment. -/
def slots : Fragment → List Members.Slot
  | mk name required includes =>
    [("name", some (.str name)), ("required", required.map Json.ofStrings),
      ("includes", Members.listSlot (includes.map toJson))]

theorem map_fst_slots (f : Fragment) : f.slots.map Prod.fst = names := by
  cases f
  rfl

theorem toJsonList_eq_map (fs : List Fragment) : toJsonList fs = fs.map toJson := by
  induction fs with
  | nil => rfl
  | cons f rest ih => rw [toJsonList, ih, List.map_cons]

theorem toJson_eq (f : Fragment) : f.toJson = .obj (Members.ofSlots f.slots) := by
  cases f with
  | mk name required includes =>
    simp only [toJson, slots, toJsonList_eq_map, Members.ofSlots, List.flatMap_cons,
      List.flatMap_nil, Members.member?_map, Members.member?_listSlot, List.append_assoc,
      List.append_nil]
    rfl

theorem fragmentList?_eq (v : Json) : fragmentList? v = asList? ofJson? v := by
  cases v with
  | arr items =>
    change fragments? items = items.mapM ofJson?
    induction items with
    | nil => rfl
    | cons w rest ih => simp only [fragments?, List.mapM_cons, ih]
  | _ => rfl

/-- The included fragments are read as a list that may be left out. -/
theorem includesMember?_eq (ms : Members) :
    includesMember? ms = ms.defaulted? "includes" [] (asList? ofJson?) := by
  induction ms with
  | nil => rfl
  | cons m rest ih =>
    obtain ⟨name, v⟩ := m
    rw [includesMember?, Members.defaulted?, lookup_cons_eq_ite]
    by_cases here : name = "includes"
    · rw [if_pos here, if_pos here.symm, fragmentList?_eq]
    · rw [if_neg here, if_neg (Ne.symm here), ih, Members.defaulted?]

/-- In the array form the included fragments come last. -/
theorem includesItem?_eq {items : List Json} (h : items.length ≤ names.length) :
    includesItem? items =
      Members.defaulted? (names.zip items) "includes" [] (asList? ofJson?) := by
  match items with
  | [] => rfl
  | [_] => rfl
  | [_, _] => rfl
  | [_, _, v] => exact fragmentList?_eq v
  | _ :: _ :: _ :: _ :: rest =>
    simp only [names, List.length_cons, List.length_nil] at h
    omega

/-- A fragment that is read has been read from members, in either form. -/
theorem exists_members_of_ofJson? {v : Json} {name : String} {required : Option (List String)}
    {includes : List Fragment} (taken : ofJson? v = some (mk name required includes)) :
    ∃ ms listed : Members, ms.required? "name" asString? = some name ∧
      ms.optional? "required" (asList? asString?) = some required ∧
      listed.defaulted? "includes" [] (asList? ofJson?) = some includes := by
  cases v with
  | obj members =>
    simp only [ofJson?, includesMember?_eq, Option.bind_eq_bind, Option.bind_eq_some_iff,
      Option.pure_def, Option.some_inj] at taken
    obtain ⟨ms, -, _, h1, _, h2, _, h3, same⟩ := taken
    cases same
    exact ⟨ms, members, h1, h2, h3⟩
  | arr items =>
    simp only [ofJson?, Option.bind_eq_bind, Option.bind_eq_some_iff, Option.pure_def,
      Option.some_inj] at taken
    obtain ⟨_, short, _, h1, _, h2, _, h3, same⟩ := taken
    cases same
    have fits : items.length ≤ names.length := by
      by_contra long
      rw [guard, if_neg long] at short
      cases short
    rw [includesItem?_eq fits] at h3
    exact ⟨names.zip items, names.zip items, h1, h2, h3⟩
  | _ =>
    simp only [ofJson?, reduceCtorEq] at taken

/-- Members that hold the slots of a fragment are read as the fragment. -/
theorem ofJson?_obj {members ms : Members} {name : String} {required : Option (List String)}
    {includes : List Fragment} (known : object? names (.obj members) = some ms)
    (h1 : ms.required? "name" asString? = some name)
    (h2 : ms.optional? "required" (asList? asString?) = some required)
    (h3 : members.defaulted? "includes" [] (asList? ofJson?) = some includes) :
    ofJson? (.obj members) = some (mk name required includes) := by
  simp only [ofJson?, known, includesMember?_eq, h1, h2, h3, Option.bind_eq_bind,
    Option.bind_some, Option.pure_def]

theorem readsBack (f : Fragment) : ReadsBack ofJson? toJson f := by
  induction f using includes_induction with
  | step name required includes ih =>
    intro v taken
    refine ⟨Json.noConfusion, ?_⟩
    obtain ⟨ms, listed, own, declared, included⟩ := exists_members_of_ofJson? taken
    obtain ⟨written, members, known, holds⟩ :=
      Members.exists_written (mk name required includes).map_fst_slots (by decide)
    rw [toJson_eq, members]
    simp only [slots, Members.holds_cons, Members.holds_nil, and_true] at holds
    obtain ⟨h1, h2, h3⟩ := holds
    exact ofJson?_obj known
      (Members.required?_of_lookup (asString?_readsBack name) own h1)
      (Members.optional?_of_lookup (fun l _ => asStrings?_readsBack l) declared h2)
      (Members.defaulted?_list_of_lookup ih included h3)

end Fragment

/-! ## Requests -/

namespace Request

/-- What is written for a request. -/
def slots (r : Request) : List Members.Slot :=
  [("name", some (.str r.name)), ("includes", Members.listSlot (r.includes.map Fragment.toJson)),
    ("required", r.required.map Json.ofStrings),
    ("fields", some (.arr (r.fields.map Field.toJson)))]

theorem map_fst_slots (r : Request) : r.slots.map Prod.fst = names := rfl

theorem toJson_eq (r : Request) : r.toJson = .obj (Members.ofSlots r.slots) := by
  simp only [toJson, slots, Fragment.toJsonList_eq_map, Members.ofSlots, List.flatMap_cons,
    List.flatMap_nil, Members.member?_map, Members.member?_listSlot, List.append_assoc,
    List.append_nil]
  rfl

theorem ofJson?_eq_some_iff {v : Json} {r : Request} :
    ofJson? v = some r ↔ ∃ ms, record? names v = some ms ∧
      ms.required? "name" asString? = some r.name ∧
      ms.defaulted? "includes" [] (asList? Fragment.ofJson?) = some r.includes ∧
      ms.optional? "required" (asList? asString?) = some r.required ∧
      ms.defaulted? "fields" [] (asList? Field.ofJson?) = some r.fields := by
  simp only [ofJson?, Option.bind_eq_bind, Option.bind_eq_some_iff, Option.pure_def,
    Option.some_inj]
  constructor
  · rintro ⟨ms, h, _, h1, _, h2, _, h3, _, h4, rfl⟩
    exact ⟨ms, h, h1, h2, h3, h4⟩
  · rintro ⟨ms, h, h1, h2, h3, h4⟩
    exact ⟨ms, h, _, h1, _, h2, _, h3, _, h4, rfl⟩

theorem readsBack (r : Request) : ReadsBack ofJson? toJson r := by
  intro v taken
  refine ⟨Json.noConfusion, ?_⟩
  obtain ⟨ms, -, name, includes, required, fields⟩ := ofJson?_eq_some_iff.mp taken
  obtain ⟨written, members, known, holds⟩ := Members.exists_written r.map_fst_slots (by decide)
  rw [toJson_eq, members]
  refine ofJson?_eq_some_iff.mpr ⟨written, known, ?_⟩
  simp only [slots, Members.holds_cons, Members.holds_nil, and_true] at holds
  obtain ⟨h1, h2, h3, h4⟩ := holds
  exact ⟨Members.required?_of_lookup (asString?_readsBack r.name) name h1,
    Members.defaulted?_list_of_lookup (fun f _ => f.readsBack) includes h2,
    Members.optional?_of_lookup (fun l _ => asStrings?_readsBack l) required h3,
    Members.defaulted?_full_list_of_lookup (fun f _ => f.readsBack) fields h4⟩

/-! ## Definitions files -/

/-- A request in array form begins with its name. -/
theorem ofJson?_arr_cons {w : Json} {rest : List Json} {r : Request}
    (taken : ofJson? (.arr (w :: rest)) = some r) : w = .str r.name := by
  obtain ⟨ms, members, name, -⟩ := ofJson?_eq_some_iff.mp taken
  simp only [record?, Option.ite_none_right_eq_some, Option.some_inj] at members
  obtain ⟨-, rfl⟩ := members
  change asString? w = some r.name at name
  cases w with
  | str s =>
    cases name
    rfl
  | _ => cases name

/-- No value is both a list of requests and a single one. -/
theorem manyOfJson?_eq_none_or (v : Json) : manyOfJson? v = none ∨ singleOfJson? v = none := by
  cases v with
  | arr items =>
    cases items with
    | nil => exact Or.inr rfl
    | cons w rest =>
      cases single : ofJson? (.arr (w :: rest)) with
      | none =>
        right
        rw [singleOfJson?, single]
        rfl
      | some r =>
        left
        rw [ofJson?_arr_cons single]
        rfl
  | _ => exact Or.inl rfl

/-- What one of two readings finds either of them finds, when at most one finds anything. -/
theorem orElse_comm_of_none {α : Type} {x y : Option α} (h : x = none ∨ y = none) :
    (x <|> y) = (y <|> x) := by
  rcases h with rfl | rfl
  · cases y <;> rfl
  · cases x <;> rfl

/-- The requests of a definitions file have each been read from a value of its own. -/
theorem exists_of_mem_definitions {v : Json} {rs : List Request}
    (taken : definitionsOfJson? v = some rs) : ∀ r ∈ rs, ∃ w, ofJson? w = some r := by
  rw [definitionsOfJson?] at taken
  cases many : manyOfJson? v with
  | some found =>
    rw [many] at taken
    cases taken
    exact exists_of_mem_of_asList? many
  | none =>
    rw [many] at taken
    change singleOfJson? v = some rs at taken
    obtain ⟨r, single, rfl⟩ := Option.map_eq_some_iff.mp taken
    intro s hs
    cases List.mem_singleton.mp hs
    exact ⟨v, single⟩

theorem definitionsOfJson?_map {rs : List Request} (back : ∀ r ∈ rs, ofJson? r.toJson = some r) :
    definitionsOfJson? (.arr (rs.map toJson)) = some rs := by
  have many : manyOfJson? (.arr (rs.map toJson)) = some rs := asList?_map back
  rw [definitionsOfJson?, many]
  rfl

theorem definitionsOfJson?_toJson {r : Request} (back : ofJson? r.toJson = some r) :
    definitionsOfJson? r.toJson = some [r] := by
  have many : manyOfJson? r.toJson = none := rfl
  rw [definitionsOfJson?, many, singleOfJson?, back]
  rfl

/-- Definitions that have been read come back from what is written for them, all together as a
list and each by itself. And no value can be read both as a list of requests and as a single
request, so it does not matter which of the two is tried first. -/
theorem definitions_come_back :
    (∀ v rs, definitionsOfJson? v = some rs →
      definitionsOfJson? (.arr (rs.map toJson)) = some rs ∧
        ∀ r ∈ rs, definitionsOfJson? r.toJson = some [r]) ∧
    ∀ v, (manyOfJson? v = none ∨ singleOfJson? v = none) ∧
      definitionsOfJson? v = (singleOfJson? v <|> manyOfJson? v) := by
  constructor
  · intro v rs taken
    have back : ∀ r ∈ rs, ofJson? r.toJson = some r := by
      intro r hr
      obtain ⟨w, single⟩ := exists_of_mem_definitions taken r hr
      exact (r.readsBack w single).2
    exact ⟨definitionsOfJson?_map back, fun r hr => definitionsOfJson?_toJson (back r hr)⟩
  · intro v
    exact ⟨manyOfJson?_eq_none_or v, orElse_comm_of_none (manyOfJson?_eq_none_or v)⟩

/-- A request as a list of its members, with a fragment as such a list, a field whose type is
loosely written, and a schema that has an empty list, a null, a member that nobody knows and
a listed value that repeats a name. -/
def looseOrder : Json :=
  .arr [.str "Order", .arr [.arr [.str "Priced", .arr [.str "price"]]], .null,
    .arr [.obj [("name", .str "note"), ("type", .str " ? string "),
      ("schema", .obj [("required", .arr []), ("title", .null), ("unknown", .bool true),
        ("enum", .arr [.obj [("a", .null), ("a", .bool true)]]), ("x", .obj [])])]]]

/-- The request is read alike from the list and from the object that is written for it. -/
theorem looseOrder_comes_back :
    ∃ r, definitionsOfJson? looseOrder = some [r] ∧ definitionsOfJson? r.toJson = some [r] ∧
      definitionsOfJson? (.arr [r.toJson]) = some [r] ∧
      r.toJson = .obj [("name", .str "Order"),
        ("includes", .arr [.obj [("name", .str "Priced"), ("required", .arr [.str "price"])]]),
        ("fields", .arr [.obj [("name", .str "note"), ("type", .str "?string"),
          ("schema", .obj [("required", .arr []),
            ("enum", .arr [.obj [("a", .bool true)]])])]])] := by
  obtain ⟨r, taken⟩ : ∃ r, definitionsOfJson? looseOrder = some [r] := ⟨_, rfl⟩
  obtain ⟨together, apart⟩ := definitions_come_back.1 looseOrder [r] taken
  refine ⟨r, taken, apart r (List.mem_singleton_self r), together, ?_⟩
  cases taken
  rfl

end Request

end PayloadRules
