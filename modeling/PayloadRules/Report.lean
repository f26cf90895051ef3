import PayloadRules.Diagnostic
import PayloadRules.Json.Printer

/-!
# Check reports

A report counts what was checked and keeps every diagnostic in the order in
which it was found. Its form is versioned, so a report can be written, read back
and continued.
-/

namespace PayloadRules

/-- The version of the form of a report. -/
structure ReportVersion where
  major : Nat
  minor : Nat
deriving DecidableEq, Repr

namespace ReportVersion

/-- The version that is written. -/
def current : ReportVersion := ⟨1, 0⟩

def text (v : ReportVersion) : String := v.major.repr ++ "." ++ v.minor.repr

/-- The member names, in order. -/
def names : List String := ["major", "minor"]

/-- Version numbers have thirty-two bits. -/
def ofJson? (v : Json) : Option ReportVersion := do
  let small (v : Json) : Option Nat := v.asNat?.filter (· < UInt32.size)
  let ms ← Json.record? names v
  return { major := ← ms.required? "major" small, minor := ← ms.required? "minor" small }

def toJson (v : ReportVersion) : Json :=
  .obj [("major", Json.ofNat v.major), ("minor", Json.ofNat v.minor)]

end ReportVersion

/-- What a report counts. Counters have sixty-four bits and start over after the last
number. -/
structure ReportSummary where
  /-- Diagnostics. -/
  total : UInt64 := 0
  requestsChecked : UInt64 := 0
  fieldsChecked : UInt64 := 0
  /-- Requests with a diagnostic. -/
  requestsFailed : UInt64 := 0
deriving DecidableEq, Repr

namespace ReportSummary

/-- The member names, in order. -/
def names : List String := ["total", "requests_checked", "fields_checked", "requests_failed"]

/-- A counter. -/
def counter? (v : Json) : Option UInt64 :=
  (v.asNat?.filter (· < UInt64.size)).map UInt64.ofNat

def ofJson? (v : Json) : Option ReportSummary := do
  let ms ← Json.record? names v
  return {
    total := ← ms.required? "total" counter?
    requestsChecked := ← ms.required? "requests_checked" counter?
    fieldsChecked := ← ms.required? "fields_checked" counter?
    requestsFailed := ← ms.required? "requests_failed" counter? }

def toJson (s : ReportSummary) : Json :=
  .obj [("total", Json.ofNat s.total.toNat),
    ("requests_checked", Json.ofNat s.requestsChecked.toNat),
    ("fields_checked", Json.ofNat s.fieldsChecked.toNat),
    ("requests_failed", Json.ofNat s.requestsFailed.toNat)]

end ReportSummary

/-- The outcome of checking requests. -/
structure Report where
  version : ReportVersion := ReportVersion.current
  timestamp : String
  summary : ReportSummary := {}
  diagnostics : List Diagnostic := []
deriving DecidableEq, Repr

namespace Report

/-- The report on nothing yet. -/
def new (timestamp : String) : Report := { timestamp }

/-- Records the check of one request with so many fields. -/
def addRequest (r : Report) (fields : Nat) (found : List Diagnostic) : Report :=
  { r with
    summary :=
      { total := r.summary.total + UInt64.ofNat found.length
        requestsChecked := r.summary.requestsChecked + 1
        fieldsChecked := r.summary.fieldsChecked + UInt64.ofNat fields
        requestsFailed := r.summary.requestsFailed + (if found.isEmpty then 0 else 1) }
    diagnostics := r.diagnostics ++ found }

/-- Whether anything was counted. -/
def hasErrors (r : Report) : Bool := 0 < r.summary.total

/-- The member names, in order. -/
def names : List String := ["version", "timestamp", "summary", "diagnostics"]

def ofJson? (v : Json) : Option Report := do
  let ms ← Json.record? names v
  return {
    version := ← ms.required? "version" ReportVersion.ofJson?
    timestamp := ← ms.required? "timestamp" Json.asString?
    summary := ← ms.required? "summary" ReportSummary.ofJson?
    diagnostics := ← ms.required? "diagnostics" (Json.asList? Diagnostic.ofJson?) }

def toJson (r : Report) : Json :=
  .obj [("version", r.version.toJson), ("timestamp", .str r.timestamp),
    ("summary", r.summary.toJson), ("diagnostics", .arr (r.diagnostics.map Diagnostic.toJson))]

/-- The parts of a report that count. -/
def selection : Json.Selection :=
  .record [("version", .members ReportVersion.names), ("timestamp", .whole),
    ("summary", .members ReportSummary.names), ("diagnostics", .list Diagnostic.selection)]

/-- The report in a text. -/
def parse? : String → Option Report := Json.parseAs? selection ofJson?

/-- The text of a report, laid out over lines. -/
def text (r : Report) : String := r.toJson.indented

end Report

end PayloadRules
