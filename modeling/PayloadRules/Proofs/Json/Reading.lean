import PayloadRules.Json.Reader
import PayloadRules.Proofs.Json.Spelling
import PayloadRules.Proofs.Table

/-!
# Reading laid out text

The reader builds from the tokens of a value what the value spells, and that denotes the
value again as long as containers do not nest too deep. So a value is read back from its text
(`Json.parse?_indented`), and a typed reader gets it as it was when all of its parts count
(`Json.parseAs?_indented`).
-/

namespace PayloadRules

namespace Json

/-! ## What a value spells -/

mutual

/-- What the text of a value spells, without gaps. -/
def raw : Json → Raw
  | .null => .scalar (some .null)
  | .bool b => .scalar (some (.bool b))
  | .num n => .scalar (some (.num n))
  | .str s => .scalar (some (.str s))
  | .arr items => .arr (rawItems items)
  | .obj members => .obj (rawMembers members)

def rawItems : List Json → List Raw
  | [] => []
  | v :: rest => raw v :: rawItems rest

def rawMembers : List (String × Json) → List (Option String × Raw)
  | [] => []
  | (k, v) :: rest => (some k, raw v) :: rawMembers rest

end

mutual

theorem value?_raw : ∀ {room : Nat} {v : Json}, Legible room v → v.raw.value? room = some v
  | _, .null, _ => rfl
  | _, .bool _, _ => rfl
  | _, .num _, _ => rfl
  | _, .str _, _ => rfl
  | _, .arr items, ⟨deep, all⟩ => by
    rw [raw, Raw.value?, if_neg (Nat.ne_of_gt deep), items?_rawItems all]
    rfl
  | _, .obj members, ⟨deep, all⟩ => by
    rw [raw, Raw.value?, if_neg (Nat.ne_of_gt deep), members?_rawMembers all]
    rfl

theorem items?_rawItems : ∀ {room : Nat} {vs : List Json}, LegibleItems room vs →
    Raw.items? room (rawItems vs) = some vs
  | _, [], _ => rfl
  | _, v :: vs, ⟨first, others⟩ => by
    rw [rawItems, Raw.items?, value?_raw first, items?_rawItems others]
    rfl

theorem members?_rawMembers : ∀ {room : Nat} {ms : List (String × Json)}, LegibleMembers room ms →
    Raw.members? room (rawMembers ms) = some ms
  | _, [], _ => rfl
  | _, (k, v) :: ms, ⟨first, others⟩ => by
    rw [rawMembers, Raw.members?, value?_raw first, members?_rawMembers others]
    rfl

end

/-! ## Reading tokens -/

namespace Reader

/-- Reading on after one token. -/
theorem foldlM_step_cons {s next : State} {t : Token} (first : step s t = some next)
    (ts : List Token) : (t :: ts).foldlM step s = ts.foldlM step next := by
  rw [List.foldlM_cons, first]
  rfl

/-- Whether a value may come next. -/
def AwaitsValue (next : Expected) : Prop := next = .value ∨ next = .valueOrClose

theorem step_value {next : Expected} (awaits : AwaitsValue next) (stack : List Frame) {t : Token}
    (other : t ≠ .closeArray) : step (.reading stack next) t = startValue stack t := by
  rcases awaits with rfl | rfl
  · rfl
  · cases t with
    | closeArray => exact absurd rfl other
    | _ => rfl

/-- A value that is one token. -/
theorem foldlM_single {next : Expected} (awaits : AwaitsValue next) (stack : List Frame)
    (ts : List Token) {t : Token} {r : Raw} (other : t ≠ .closeArray)
    (same : startValue stack t = complete r stack) :
    ([t] ++ ts).foldlM step (.reading stack next) =
      (complete r stack).bind fun s => ts.foldlM step s := by
  rw [List.singleton_append, List.foldlM_cons, step_value awaits stack other, same]
  rfl

mutual

/-- The tokens of a value put what it spells where a value may stand. -/
theorem foldlM_spelled {next : Expected} (awaits : AwaitsValue next) (stack : List Frame)
    (ts : List Token) : ∀ v : Json,
      (v.spelled ++ ts).foldlM step (.reading stack next) =
        (complete v.raw stack).bind fun s => ts.foldlM step s
  | .null => foldlM_single awaits stack ts Token.noConfusion rfl
  | .bool _ => foldlM_single awaits stack ts Token.noConfusion rfl
  | .num _ => foldlM_single awaits stack ts Token.noConfusion rfl
  | .str _ => foldlM_single awaits stack ts Token.noConfusion rfl
  | .arr [] => by
    have opened := step_value awaits stack (t := .openArray) Token.noConfusion
    rw [spelled, List.cons_append, foldlM_step_cons opened, List.singleton_append, List.foldlM_cons]
    rfl
  | .arr (v :: vs) => by
    have opened := step_value awaits stack (t := .openArray) Token.noConfusion
    rw [spelled, List.cons_append, foldlM_step_cons opened, List.append_assoc,
      foldlM_spelled (Or.inr rfl) _ _ v]
    exact foldlM_spelledItems stack [v.raw] ts vs
  | .obj [] => by
    have opened := step_value awaits stack (t := .openObject) Token.noConfusion
    rw [spelled, List.cons_append, foldlM_step_cons opened, List.singleton_append, List.foldlM_cons]
    rfl
  | .obj ((k, v) :: ms) => by
    have opened := step_value awaits stack (t := .openObject) Token.noConfusion
    rw [spelled, List.cons_append, foldlM_step_cons opened, List.cons_append, foldlM_step_cons rfl,
      List.cons_append, foldlM_step_cons rfl, List.append_assoc, foldlM_spelled (Or.inl rfl) _ _ v]
    exact foldlM_spelledMembers stack [(some k, v.raw)] ts ms

/-- The tokens after the first item complete the array. -/
theorem foldlM_spelledItems (stack : List Frame) (items : List Raw) (ts : List Token) :
    ∀ vs : List Json,
      (spelledItems vs ++ ts).foldlM step (.reading (.array items :: stack) .separator) =
        (complete (.arr (items.reverse ++ rawItems vs)) stack).bind fun s => ts.foldlM step s
  | [] => by
    rw [spelledItems, List.singleton_append, List.foldlM_cons, rawItems, List.append_nil]
    rfl
  | v :: vs => by
    have whole : (v.raw :: items).reverse ++ rawItems vs = items.reverse ++ rawItems (v :: vs) := by
      rw [List.reverse_cons, List.append_assoc, List.singleton_append, rawItems]
    rw [spelledItems, List.cons_append, foldlM_step_cons rfl, List.append_assoc,
      foldlM_spelled (Or.inl rfl) _ _ v, ← whole]
    exact foldlM_spelledItems stack (v.raw :: items) ts vs

/-- The tokens after the first member complete the object. -/
theorem foldlM_spelledMembers (stack : List Frame) (members : List (Option String × Raw))
    (ts : List Token) : ∀ ms : List (String × Json),
      (spelledMembers ms ++ ts).foldlM step (.reading (.object members :: stack) .separator) =
        (complete (.obj (members.reverse ++ rawMembers ms)) stack).bind fun s => ts.foldlM step s
  | [] => by
    rw [spelledMembers, List.singleton_append, List.foldlM_cons, rawMembers, List.append_nil]
    rfl
  | (k, v) :: ms => by
    have whole : ((some k, v.raw) :: members).reverse ++ rawMembers ms =
        members.reverse ++ rawMembers ((k, v) :: ms) := by
      rw [List.reverse_cons, List.append_assoc, List.singleton_append, rawMembers]
    rw [spelledMembers, List.cons_append, foldlM_step_cons rfl, List.cons_append,
      foldlM_step_cons rfl, List.cons_append, foldlM_step_cons rfl, List.append_assoc,
      foldlM_spelled (Or.inl rfl) _ _ v, ← whole]
    exact foldlM_spelledMembers stack ((some k, v.raw) :: members) ts ms

end

end Reader

/-! ## Reading text -/

theorem ofTokens?_spelled (v : Json) : Raw.ofTokens? v.spelled = some v.raw := by
  have read := Reader.foldlM_spelled (Or.inl rfl) [] [] v
  rw [List.append_nil] at read
  rw [Raw.ofTokens?, read]
  rfl

/-- The text of a value spells the value. -/
theorem rawParse?_indented {room : Nat} {v : Json} (legible : Legible room v) :
    Raw.parse? v.indented = some v.raw := by
  rw [Raw.parse?, tokens?_indented legible, Option.bind_some, ofTokens?_spelled]

/-- Whether all parts of a value count. -/
def Counts (s : Selection) (v : Json) : Prop := v.raw.select s = v.raw

/-- A typed reader gets the value that was laid out when all of its parts count. -/
theorem parseAs?_indented {α : Type} {v : Json} {s : Selection} (read : Json → Option α)
    (legible : Legible depthLimit v) (counts : Counts s v) : parseAs? s read v.indented = read v := by
  have whole : v.raw.select s = v.raw := counts
  simp only [parseAs?, rawParse?_indented legible, whole, value?_raw legible, Option.bind_eq_bind,
    Option.bind_some]

theorem counts_whole (v : Json) : Counts .whole v := Raw.select_whole v.raw

theorem rawItems_eq_map (vs : List Json) : rawItems vs = vs.map raw := by
  induction vs with
  | nil => rfl
  | cons v vs ih => rw [rawItems, ih, List.map_cons]

theorem rawMembers_eq_map (ms : List (String × Json)) :
    rawMembers ms = ms.map fun m => (some m.1, m.2.raw) := by
  induction ms with
  | nil => rfl
  | cons m ms ih => rw [rawMembers, ih, List.map_cons]

theorem counts_list {s : Selection} {vs : List Json} (all : ∀ v ∈ vs, Counts s v) :
    Counts (.list s) (.arr vs) := by
  have same : (vs.map raw).map (Raw.select s) = vs.map raw := by
    rw [List.map_map]
    exact List.map_congr_left all
  rw [Counts, raw, Raw.select, rawItems_eq_map, same]

theorem selectMember_of_lookup {fields : List (String × Selection)} {name : String}
    {s : Selection} {r : Raw} (known : fields.lookup name = some s) (kept : r.select s = r) :
    Raw.selectMember fields (some name, r) = some (some name, r) := by
  induction fields with
  | nil => cases known
  | cons field fields ih =>
    obtain ⟨other, counted⟩ := field
    rw [lookup_cons_eq_ite] at known
    rw [Raw.selectMember]
    by_cases here : name = other
    · rw [if_pos here, Option.some_inj] at known
      obtain rfl : counted = s := known
      rw [if_pos here.symm, kept]
    · rw [if_neg here] at known
      rw [if_neg (Ne.symm here), ih known]

/-- All members of a record count when each is known and counts in all its parts. -/
theorem counts_record {fields : List (String × Selection)} {ms : List (String × Json)}
    (known : ∀ m ∈ ms, ∃ s, fields.lookup m.1 = some s ∧ Counts s m.2) :
    Counts (.record fields) (.obj ms) := by
  have kept : (rawMembers ms).filterMap (Raw.selectMember fields) = rawMembers ms := by
    rw [rawMembers_eq_map, List.filterMap_map, ← List.filterMap_eq_map]
    refine List.filterMap_congr fun m hm => ?_
    obtain ⟨s, found, counts⟩ := known m hm
    exact selectMember_of_lookup found counts
  rw [Counts, raw, Raw.select, kept]

theorem counts_members {names : List String} {ms : List (String × Json)}
    (known : ∀ m ∈ ms, m.1 ∈ names) : Counts (.members names) (.obj ms) := by
  refine counts_record fun m hm => ⟨.whole, ?_, counts_whole m.2⟩
  have found : (names.find? fun name => name = m.1).isSome :=
    List.find?_isSome.mpr ⟨m.1, known m hm, decide_eq_true rfl⟩
  obtain ⟨name, found⟩ := Option.isSome_iff_exists.mp found
  rw [Table.lookup_map, found, Option.map_some]

end Json

end PayloadRules
