import PayloadRules.Json.Members
import PayloadRules.Json.Reader

/-!
# Diagnostics

A diagnostic says what is wrong with the declaration of one field. Its code is
stable; the message is for people. Expected is what the field declares, actual
what its schema says.
-/

namespace PayloadRules

/-- What a diagnostic is about. -/
inductive DiagnosticCode where
  | nullabilityMismatch
  | typeMismatch
deriving DecidableEq, Repr

namespace DiagnosticCode

def all : List DiagnosticCode := [.nullabilityMismatch, .typeMismatch]

def name : DiagnosticCode → String
  | .nullabilityMismatch => "NULLABILITY_MISMATCH"
  | .typeMismatch => "TYPE_MISMATCH"

def ofName? (name : String) : Option DiagnosticCode := all.find? fun c => c.name = name

/-- A code is its name, or an object with that name as its only member and null
as its value. -/
def ofJson? : Json → Option DiagnosticCode
  | .str name => ofName? name
  | .obj [(name, .null)] => ofName? name
  | _ => none

end DiagnosticCode

/-- A message about one field. -/
structure Diagnostic where
  code : DiagnosticCode
  field : String
  message : String
  request : Option String := none
  expected : Option String := none
  actual : Option String := none
deriving DecidableEq, Repr

namespace Diagnostic

/-- The member names, in order. -/
def names : List String := ["code", "field", "message", "request", "expected", "actual"]

def ofJson? (v : Json) : Option Diagnostic := do
  let ms ← Json.record? names v
  return {
    code := ← ms.required? "code" DiagnosticCode.ofJson?
    field := ← ms.required? "field" Json.asString?
    message := ← ms.required? "message" Json.asString?
    request := ← ms.optional? "request" Json.asString?
    expected := ← ms.optional? "expected" Json.asString?
    actual := ← ms.optional? "actual" Json.asString? }

/-- The parts of a diagnostic that count. -/
def selection : Json.Selection := .members names

/-- The diagnostics that a text lists. -/
def parseList? : String → Option (List Diagnostic) :=
  Json.parseAs? (.list selection) (Json.asList? ofJson?)

def toJson (d : Diagnostic) : Json :=
  .obj ([("code", .str d.code.name), ("field", .str d.field), ("message", .str d.message)]
    ++ Json.member? "request" .str d.request
    ++ Json.member? "expected" .str d.expected
    ++ Json.member? "actual" .str d.actual)

end Diagnostic

end PayloadRules
