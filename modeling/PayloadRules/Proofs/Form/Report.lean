import PayloadRules.Proofs.Form.Members
import PayloadRules.Proofs.Json.Reading
import PayloadRules.Report

/-!
# Reports as text

A report is written and read again without loss (`Report.parse?_text`). Its counters are
numbers of sixty-four bits, so they are read as they were; nothing in it nests deeper than
four containers; and no member is written that the reader does not look at. What a diagnostic
leaves out is read as absent.

Only the version can be too large to be read. The one that is written for a new report is not.
-/

namespace PayloadRules

open Json

/-! ## Diagnostics -/

theorem DiagnosticCode.ofJson?_name (c : DiagnosticCode) : ofJson? (.str c.name) = some c := by
  cases c <;> rfl

namespace Diagnostic

/-- What is written for a diagnostic. -/
def slots (d : Diagnostic) : List Members.Slot :=
  [("code", some (.str d.code.name)), ("field", some (.str d.field)),
    ("message", some (.str d.message)), ("request", d.request.map .str),
    ("expected", d.expected.map .str), ("actual", d.actual.map .str)]

theorem map_fst_slots (d : Diagnostic) : d.slots.map Prod.fst = names := rfl

theorem toJson_eq (d : Diagnostic) : d.toJson = .obj (Members.ofSlots d.slots) := by
  simp only [toJson, slots, Members.ofSlots, List.flatMap_cons, List.flatMap_nil,
    Members.member?_map, List.append_assoc, List.append_nil]
  rfl

theorem ofJson?_toJson (d : Diagnostic) : ofJson? d.toJson = some d := by
  obtain ⟨written, members, known, holds⟩ := Members.exists_written d.map_fst_slots (by decide)
  simp only [slots, Members.holds_cons, Members.holds_nil, and_true] at holds
  obtain ⟨h1, h2, h3, h4, h5, h6⟩ := holds
  have text : ∀ {x : Option String}, ∀ s ∈ x, Json.str s ≠ .null ∧ asString? (.str s) = some s :=
    fun s _ => ⟨Json.noConfusion, rfl⟩
  have taken : record? names (.obj written) = some written := known
  rw [toJson_eq, members]
  simp only [ofJson?, taken, Members.required?_of_read h1 d.code.ofJson?_name,
    Members.required?_of_read h2 (rfl : asString? _ = some d.field),
    Members.required?_of_read h3 (rfl : asString? _ = some d.message),
    Members.optional?_of_read h4 text, Members.optional?_of_read h5 text,
    Members.optional?_of_read h6 text, Option.bind_eq_bind, Option.bind_some, Option.pure_def]

/-- All that is written for a diagnostic is text under a known name. -/
theorem exists_of_mem_slots {d : Diagnostic} {m : String × Json}
    (there : m ∈ Members.ofSlots d.slots) : m.1 ∈ names ∧ ∃ s, m.2 = .str s := by
  have slot : (m.1, some m.2) ∈ d.slots := Members.mem_ofSlots.mp there
  refine ⟨d.map_fst_slots ▸ List.mem_map_of_mem slot, ?_⟩
  have texts : ∀ e ∈ d.slots, ∃ x : Option String, e.2 = x.map .str := by
    simp only [slots, List.forall_mem_cons]
    exact ⟨⟨some _, rfl⟩, ⟨some _, rfl⟩, ⟨some _, rfl⟩, ⟨_, rfl⟩, ⟨_, rfl⟩, ⟨_, rfl⟩,
      List.forall_mem_nil _⟩
  obtain ⟨x, value⟩ := texts _ slot
  obtain ⟨s, -, text⟩ := Option.map_eq_some_iff.mp value.symm
  exact ⟨s, text.symm⟩

theorem legible_toJson {room : Nat} (deep : 0 < room) (d : Diagnostic) : Legible room d.toJson := by
  rw [toJson_eq]
  refine ⟨deep, legibleMembers_iff.mpr fun m hm => ?_⟩
  obtain ⟨-, s, text⟩ := exists_of_mem_slots hm
  rw [text]
  trivial

theorem counts_toJson (d : Diagnostic) : Counts selection d.toJson := by
  rw [toJson_eq]
  exact counts_members fun m hm => (exists_of_mem_slots hm).1

end Diagnostic

/-! ## Numbers -/

namespace Json

/-- A number below the bound of a reader is read back. -/
theorem filter_asNat?_ofNat {n bound : Nat} (small : n < bound) :
    (asNat? (.ofNat n)).filter (· < bound) = some n := by
  rw [asNat?_ofNat]
  exact Option.filter_some_pos (decide_eq_true small)

theorem legible_ofNat {n : Nat} (small : n < UInt64.size) (room : Nat) : Legible room (.ofNat n) :=
  ⟨Int.natCast_nonneg n, Int.ofNat_lt.mpr small⟩

end Json

namespace ReportVersion

/-- Whether the numbers of a version have thirty-two bits. -/
def Fits (v : ReportVersion) : Prop := v.major < UInt32.size ∧ v.minor < UInt32.size

theorem fits_current : current.Fits := ⟨by decide, by decide⟩

/-- What is written for a version. -/
def slots (v : ReportVersion) : List Members.Slot :=
  [("major", some (.ofNat v.major)), ("minor", some (.ofNat v.minor))]

theorem map_fst_slots (v : ReportVersion) : v.slots.map Prod.fst = names := rfl

theorem toJson_eq (v : ReportVersion) : v.toJson = .obj (Members.ofSlots v.slots) := rfl

theorem ofJson?_toJson {v : ReportVersion} (fits : v.Fits) : ofJson? v.toJson = some v := by
  obtain ⟨written, members, known, holds⟩ := Members.exists_written v.map_fst_slots (by decide)
  simp only [slots, Members.holds_cons, Members.holds_nil, and_true] at holds
  obtain ⟨h1, h2⟩ := holds
  have taken : record? names (.obj written) = some written := known
  have major : written.required? "major" (fun v => v.asNat?.filter (· < UInt32.size)) =
      some v.major := Members.required?_of_read h1 (filter_asNat?_ofNat fits.1)
  have minor : written.required? "minor" (fun v => v.asNat?.filter (· < UInt32.size)) =
      some v.minor := Members.required?_of_read h2 (filter_asNat?_ofNat fits.2)
  rw [toJson_eq, members]
  simp only [ofJson?, taken, major, minor, Option.bind_eq_bind, Option.bind_some, Option.pure_def]

theorem legible_toJson {room : Nat} (deep : 0 < room) {v : ReportVersion} (fits : v.Fits) :
    Legible room v.toJson := by
  have small : ∀ n < UInt32.size, n < UInt64.size := fun n h => Nat.lt_trans h (by decide)
  exact ⟨deep, legible_ofNat (small _ fits.1) _, legible_ofNat (small _ fits.2) _, trivial⟩

theorem counts_toJson (v : ReportVersion) : Counts (.members names) v.toJson :=
  counts_members fun _ hm => List.mem_map_of_mem hm

end ReportVersion

namespace ReportSummary

theorem counter?_ofNat (n : UInt64) : counter? (.ofNat n.toNat) = some n := by
  rw [counter?, filter_asNat?_ofNat n.toNat_lt_size, Option.map_some, UInt64.ofNat_toNat]

/-- What is written for a summary. -/
def slots (s : ReportSummary) : List Members.Slot :=
  [("total", some (.ofNat s.total.toNat)),
    ("requests_checked", some (.ofNat s.requestsChecked.toNat)),
    ("fields_checked", some (.ofNat s.fieldsChecked.toNat)),
    ("requests_failed", some (.ofNat s.requestsFailed.toNat))]

theorem map_fst_slots (s : ReportSummary) : s.slots.map Prod.fst = names := rfl

theorem toJson_eq (s : ReportSummary) : s.toJson = .obj (Members.ofSlots s.slots) := rfl

theorem ofJson?_toJson (s : ReportSummary) : ofJson? s.toJson = some s := by
  obtain ⟨written, members, known, holds⟩ := Members.exists_written s.map_fst_slots (by decide)
  simp only [slots, Members.holds_cons, Members.holds_nil, and_true] at holds
  obtain ⟨h1, h2, h3, h4⟩ := holds
  have taken : record? names (.obj written) = some written := known
  rw [toJson_eq, members]
  simp only [ofJson?, taken, Members.required?_of_read h1 (counter?_ofNat _),
    Members.required?_of_read h2 (counter?_ofNat _),
    Members.required?_of_read h3 (counter?_ofNat _),
    Members.required?_of_read h4 (counter?_ofNat _), Option.bind_eq_bind, Option.bind_some,
    Option.pure_def]

theorem legible_toJson {room : Nat} (deep : 0 < room) (s : ReportSummary) : Legible room s.toJson :=
  ⟨deep, legible_ofNat s.total.toNat_lt_size _, legible_ofNat s.requestsChecked.toNat_lt_size _,
    legible_ofNat s.fieldsChecked.toNat_lt_size _, legible_ofNat s.requestsFailed.toNat_lt_size _,
    trivial⟩

theorem counts_toJson (s : ReportSummary) : Counts (.members names) s.toJson :=
  counts_members fun _ hm => List.mem_map_of_mem hm

end ReportSummary

/-! ## Reports -/

namespace Report

/-- What is written for a report. -/
def slots (r : Report) : List Members.Slot :=
  [("version", some r.version.toJson), ("timestamp", some (.str r.timestamp)),
    ("summary", some r.summary.toJson),
    ("diagnostics", some (.arr (r.diagnostics.map Diagnostic.toJson)))]

theorem map_fst_slots (r : Report) : r.slots.map Prod.fst = names := rfl

theorem toJson_eq (r : Report) : r.toJson = .obj (Members.ofSlots r.slots) := rfl

theorem ofJson?_toJson {r : Report} (fits : r.version.Fits) : ofJson? r.toJson = some r := by
  obtain ⟨written, members, known, holds⟩ := Members.exists_written r.map_fst_slots (by decide)
  simp only [slots, Members.holds_cons, Members.holds_nil, and_true] at holds
  obtain ⟨h1, h2, h3, h4⟩ := holds
  have taken : record? names (.obj written) = some written := known
  have listed : asList? Diagnostic.ofJson? (.arr (r.diagnostics.map Diagnostic.toJson)) =
      some r.diagnostics := asList?_map fun d _ => d.ofJson?_toJson
  rw [toJson_eq, members]
  simp only [ofJson?, taken, Members.required?_of_read h1 (ReportVersion.ofJson?_toJson fits),
    Members.required?_of_read h2 (rfl : asString? _ = some r.timestamp),
    Members.required?_of_read h3 r.summary.ofJson?_toJson, Members.required?_of_read h4 listed,
    Option.bind_eq_bind, Option.bind_some, Option.pure_def]

theorem legible_toJson {r : Report} (fits : r.version.Fits) : Legible depthLimit r.toJson := by
  have listed : ∀ v ∈ r.diagnostics.map Diagnostic.toJson, Legible (depthLimit - 2) v := by
    intro v hv
    obtain ⟨d, -, rfl⟩ := List.mem_map.mp hv
    exact d.legible_toJson (by decide)
  exact ⟨by decide, ReportVersion.legible_toJson (by decide) fits, trivial,
    r.summary.legible_toJson (by decide), ⟨by decide, legibleItems_iff.mpr listed⟩, trivial⟩

theorem counts_toJson (r : Report) : Counts selection r.toJson := by
  have listed : Counts (.list Diagnostic.selection) (.arr (r.diagnostics.map Diagnostic.toJson)) := by
    refine counts_list fun v hv => ?_
    obtain ⟨d, -, rfl⟩ := List.mem_map.mp hv
    exact d.counts_toJson
  refine counts_record ?_
  simp only [List.forall_mem_cons]
  exact ⟨⟨_, rfl, r.version.counts_toJson⟩, ⟨_, rfl, counts_whole _⟩,
    ⟨_, rfl, r.summary.counts_toJson⟩, ⟨_, rfl, listed⟩, List.forall_mem_nil _⟩

/-- A report is read back from its text. -/
theorem parse?_text {r : Report} (fits : r.version.Fits) : parse? r.text = some r := by
  rw [parse?, text, parseAs?_indented ofJson? (legible_toJson fits) r.counts_toJson,
    ofJson?_toJson fits]

end Report

end PayloadRules
