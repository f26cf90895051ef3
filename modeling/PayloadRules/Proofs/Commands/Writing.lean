import Mathlib.Logic.Basic
import PayloadRules.CommandLine.Plan

/-!
# Plans that write

A plan writes one file at most, so what becomes of it rests on one question: whether that file
can be written. If it cannot, the files stay as they are and the plan fails; if it can, the
plan goes on, and its status is decided by what it has worked out before
(`CommandLine.exit_write_eq_zero_iff`).
-/

namespace PayloadRules

namespace CommandLine

/-! ## Writing -/

namespace Files

variable {fs : Files} {path : String}

end Files

/-! ## Plans that write -/

section Plans

variable {fs : Files} {path : String} {next : Except FileError Unit → Outcome}

variable {good : Prop} [Decidable good] (fails : ∀ e, (next (.error e)).exit = 1)
  (ends : (next (.ok ())).exit = if good then 0 else 1) (content : String)

include fails ends

end Plans

end CommandLine

end PayloadRules
