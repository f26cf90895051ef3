import Mathlib.Algebra.GroupWithZero.Nat
import Mathlib.Data.List.Count
import Mathlib.Data.List.Induction
import PayloadRules.Proofs.Form.Report

/-!
# What a report counts

A report is filled by one request after the other. Each adds to four counters and to the list
of findings, and the five stay in step (`Report.Tally`): what a report counts is what has been
recorded in it, whatever the order of requests with and without findings. Counters start over
after the last number, so the tally is kept up to that, and is exact as long as the checks are
few enough to be counted (`RequestCheck.Countable`).

Nothing but the report is needed to go on. It may be written after any request, and the one
that is read back is filled up to the same report (`Report.counts_what_it_records`).
-/

namespace PayloadRules

/-- The check of one request: how many fields it has and what was found. -/
structure RequestCheck where
  fields : Nat
  found : List Diagnostic

namespace RequestCheck

/-- The number of requests with a finding at least. -/
def failures (checks : List RequestCheck) : Nat := checks.countP fun c => 0 < c.found.length

/-- Whether checks are few enough to be counted. -/
structure Countable (checks : List RequestCheck) : Prop where
  requests : checks.length < UInt64.size
  fields : (checks.map fields).sum < UInt64.size
  findings : (checks.flatMap found).length < UInt64.size

theorem failures_le_length (checks : List RequestCheck) : failures checks ≤ checks.length :=
  List.countP_le_length

theorem failures_concat (checks : List RequestCheck) (c : RequestCheck) :
    failures (checks ++ [c]) = failures checks + if c.found.isEmpty then 0 else 1 := by
  rw [failures, List.countP_append, List.countP_singleton, failures]
  cases c.found <;> rfl

/-- A request with findings has one at least. -/
theorem failures_le_findings (checks : List RequestCheck) :
    failures checks ≤ (checks.flatMap found).length := by
  induction checks using List.reverseRecOn with
  | nil => exact Nat.le_refl 0
  | append_singleton rest c ih =>
    have last : (if c.found.isEmpty then 0 else 1) ≤ c.found.length := by
      cases c.found <;> simp
    rw [failures_concat, List.flatMap_append, List.flatMap_singleton, List.length_append]
    omega

theorem failures_pos_iff {checks : List RequestCheck} :
    0 < failures checks ↔ checks.flatMap found ≠ [] := by
  rw [failures, List.countP_pos_iff, Ne, List.flatMap_eq_nil_iff]
  simp only [decide_eq_true_eq, List.length_pos_iff, Classical.not_forall, exists_prop, ne_eq]

end RequestCheck

namespace Report

open RequestCheck

/-- Records checks one after the other. -/
def addChecks (r : Report) (checks : List RequestCheck) : Report :=
  checks.foldl (fun r c => r.addRequest c.fields c.found) r

/-- The report on some checks. -/
def onChecks (timestamp : String) (checks : List RequestCheck) : Report :=
  (new timestamp).addChecks checks

theorem addChecks_append (r : Report) (before after : List RequestCheck) :
    r.addChecks (before ++ after) = (r.addChecks before).addChecks after := List.foldl_append

/-- What is recorded in a report is what it counts, up to where counters start over. -/
structure Tally (checks : List RequestCheck) (r : Report) : Prop where
  diagnostics : r.diagnostics = checks.flatMap found
  total : r.summary.total = UInt64.ofNat (checks.flatMap found).length
  requestsChecked : r.summary.requestsChecked = UInt64.ofNat checks.length
  fieldsChecked : r.summary.fieldsChecked = UInt64.ofNat (checks.map fields).sum
  requestsFailed : r.summary.requestsFailed = UInt64.ofNat (failures checks)

theorem tally_new (timestamp : String) : Tally [] (new timestamp) := ⟨rfl, rfl, rfl, rfl, rfl⟩

/-- One more request is one more in the tally. -/
theorem Tally.addRequest {checks : List RequestCheck} {r : Report} (tally : Tally checks r)
    (c : RequestCheck) : Tally (checks ++ [c]) (r.addRequest c.fields c.found) where
  diagnostics := by
    rw [Report.addRequest, tally.diagnostics, List.flatMap_append, List.flatMap_singleton]
  total := by
    rw [Report.addRequest, tally.total, List.flatMap_append, List.flatMap_singleton,
      List.length_append, UInt64.ofNat_add]
  requestsChecked := by
    rw [Report.addRequest, tally.requestsChecked, List.length_append, UInt64.ofNat_add]
    rfl
  fieldsChecked := by
    rw [Report.addRequest, tally.fieldsChecked, List.map_append, List.sum_append, UInt64.ofNat_add]
    simp
  requestsFailed := by
    rw [Report.addRequest, tally.requestsFailed, failures_concat, UInt64.ofNat_add]
    cases c.found.isEmpty <;> rfl

theorem Tally.addChecks {done : List RequestCheck} {r : Report} (tally : Tally done r)
    (checks : List RequestCheck) : Tally (done ++ checks) (r.addChecks checks) := by
  induction checks generalizing done r with
  | nil =>
    rw [List.append_nil]
    exact tally
  | cons c rest ih =>
    have next := ih (tally.addRequest c)
    rw [List.append_assoc] at next
    exact next

theorem tally_onChecks (timestamp : String) (checks : List RequestCheck) :
    Tally checks (onChecks timestamp checks) := (tally_new timestamp).addChecks checks

/-! ## Few enough checks -/

section Countable

variable {checks : List RequestCheck} {r : Report}

theorem Tally.toNat_total (tally : Tally checks r)
    (few : (checks.flatMap found).length < UInt64.size) :
    r.summary.total.toNat = r.diagnostics.length := by
  rw [tally.total, tally.diagnostics, UInt64.toNat_ofNat_of_lt' few]

theorem Tally.toNat_requestsChecked (tally : Tally checks r) (countable : Countable checks) :
    r.summary.requestsChecked.toNat = checks.length := by
  rw [tally.requestsChecked, UInt64.toNat_ofNat_of_lt' countable.requests]

theorem Tally.toNat_fieldsChecked (tally : Tally checks r) (countable : Countable checks) :
    r.summary.fieldsChecked.toNat = (checks.map fields).sum := by
  rw [tally.fieldsChecked, UInt64.toNat_ofNat_of_lt' countable.fields]

theorem Tally.toNat_requestsFailed (tally : Tally checks r) (countable : Countable checks) :
    r.summary.requestsFailed.toNat = failures checks := by
  have few : failures checks < UInt64.size :=
    Nat.lt_of_le_of_lt (failures_le_length checks) countable.requests
  rw [tally.requestsFailed, UInt64.toNat_ofNat_of_lt' few]

/-- Only the findings have to be few for the counter of findings to tell whether there are any. -/
theorem Tally.hasErrors_iff (tally : Tally checks r)
    (few : (checks.flatMap found).length < UInt64.size) :
    r.hasErrors ↔ r.diagnostics ≠ [] := by
  rw [hasErrors, decide_eq_true_iff, UInt64.lt_iff_toNat_lt, tally.toNat_total few,
    ← List.length_pos_iff]
  rfl

end Countable

/-! ## Going on from text -/

theorem version_addChecks (r : Report) (checks : List RequestCheck) :
    (r.addChecks checks).version = r.version := by
  induction checks generalizing r with
  | nil => rfl
  | cons c rest ih => exact ih (r.addRequest c.fields c.found)

/-- The report on checks is read back from its text. -/
theorem parse?_text_onChecks (timestamp : String) (checks : List RequestCheck) :
    parse? (onChecks timestamp checks).text = some (onChecks timestamp checks) := by
  apply parse?_text
  rw [onChecks, version_addChecks]
  exact ReportVersion.fits_current

/-- A report counts what has been recorded in it: the findings, which are those of all
requests in order, the requests, their fields, and the requests with findings, which are
neither more than all requests nor more than the findings. It has errors just when it has
diagnostics, and just when a request has failed. After any of the requests it may be written
and read back, and when the others are recorded then it is the same report. -/
theorem counts_what_it_records {checks : List RequestCheck} (countable : Countable checks)
    (timestamp : String) :
    let r := onChecks timestamp checks
    r.diagnostics = checks.flatMap found ∧
      r.summary.total.toNat = r.diagnostics.length ∧
      r.summary.requestsChecked.toNat = checks.length ∧
      r.summary.fieldsChecked.toNat = (checks.map fields).sum ∧
      r.summary.requestsFailed.toNat = failures checks ∧
      r.summary.requestsFailed ≤ r.summary.requestsChecked ∧
      r.summary.requestsFailed ≤ r.summary.total ∧
      (r.hasErrors ↔ r.diagnostics ≠ []) ∧
      (r.hasErrors ↔ 0 < r.summary.requestsFailed) ∧
      ∀ before after, before ++ after = checks →
        ∃ back, parse? (onChecks timestamp before).text = some back ∧ back.addChecks after = r := by
  intro r
  have tally : Tally checks r := tally_onChecks timestamp checks
  have total := tally.toNat_total countable.findings
  have requests := tally.toNat_requestsChecked countable
  have failed := tally.toNat_requestsFailed countable
  have findings : r.diagnostics.length = (checks.flatMap found).length :=
    congrArg List.length tally.diagnostics
  refine ⟨tally.diagnostics, total, requests, tally.toNat_fieldsChecked countable, failed, ?_, ?_,
    tally.hasErrors_iff countable.findings, ?_, ?_⟩
  · rw [UInt64.le_iff_toNat_le, failed, requests]
    exact failures_le_length checks
  · rw [UInt64.le_iff_toNat_le, failed, total, findings]
    exact failures_le_findings checks
  · rw [tally.hasErrors_iff countable.findings, UInt64.lt_iff_toNat_lt, failed, tally.diagnostics]
    exact failures_pos_iff.symm
  · rintro before after rfl
    exact ⟨_, parse?_text_onChecks timestamp before, (addChecks_append _ before after).symm⟩

/-- Four requests, two of them with findings. One finding says whose it is and what was
expected, in a message with a line break and quotes; the others leave out what may be left
out. -/
def mixedChecks : List RequestCheck :=
  [⟨3, []⟩,
    ⟨2, [{ code := .nullabilityMismatch, field := "age", message := "age:\n\"?int\""
           request := "Order", expected := "nullable" },
         { code := .typeMismatch, field := "age", message := "age: int" }]⟩,
    ⟨0, []⟩,
    ⟨4, [{ code := .typeMismatch, field := "tag", message := "tag: string" }]⟩]

/-- The four are counted, also when the report is written and read in between. -/
theorem counts_of_mixedChecks :
    Countable mixedChecks ∧
      ∃ back, parse? (onChecks "now" (mixedChecks.take 2)).text = some back ∧
        back.summary = ⟨2, 2, 5, 1⟩ ∧
        (back.addChecks (mixedChecks.drop 2)).summary = ⟨3, 4, 9, 2⟩ ∧
        (back.addChecks (mixedChecks.drop 2)).diagnostics = mixedChecks.flatMap found := by
  have countable : Countable mixedChecks := ⟨by decide, by decide, by decide⟩
  obtain ⟨recorded, -, -, -, -, -, -, -, -, goesOn⟩ := counts_what_it_records countable "now"
  obtain ⟨back, read, same⟩ := goesOn (mixedChecks.take 2) (mixedChecks.drop 2) rfl
  refine ⟨countable, back, read, ?_, ?_, ?_⟩
  · cases read.symm.trans (parse?_text_onChecks "now" (mixedChecks.take 2))
    rfl
  · rw [same]
    rfl
  · rw [same]
    exact recorded

end Report

end PayloadRules
