import PayloadRules.CommandLine.Plan
import Std.Time.Format
import Std.Time.Zoned

/-!
# The program

Reads the files that an invocation may ask for, carries its plan out and puts
the outcome out. Everything else is decided by the plan.

Whether something is at a path is asked apart from reading it: what is no text, or
may not be read, is there all the same.
-/

namespace PayloadRules

namespace CommandLine

/-- The paths an invocation may read. -/
def Invocation.sources (i : Invocation) : List String :=
  i.config.getD configFile :: match i.command with
    | .compile file _ _ => [file]
    | .check files _ => files
    | .initConfig _ => []

/-- The paths an invocation may ask for without reading them. -/
def Invocation.probes (i : Invocation) : List String :=
  configFile :: match i.command with
    | .compile .. | .check .. => []
    | .initConfig path => [path]

/-- The number and the words of a failure that the system reports. -/
def systemFailure? : IO.Error → Option (UInt32 × String)
  | .alreadyExists _ number words | .interrupted _ number words
  | .noFileOrDirectory _ number words | .invalidArgument _ number words
  | .permissionDenied _ number words | .resourceExhausted _ number words
  | .inappropriateType _ number words | .noSuchThing _ number words
  | .otherError number words | .resourceBusy number words | .resourceVanished number words
  | .unsupportedOperation number words | .hardwareFault number words
  | .unsatisfiedConstraints number words | .illegalOperation number words
  | .protocolError number words | .timeExpired number words => some (number, words)
  | .unexpectedEof | .userError _ => none

/-- Which of the known errors a failure is. What the system does not report is found in a
file that is no text. Some calls give the number of a failure with a minus sign. -/
def fileErrorOf (e : IO.Error) : FileError :=
  match systemFailure? e with
  | none => .notText
  | some (number, words) =>
    match (min number (-number)).toNat with
    | 2 => .notFound
    | 20 => .notDirectory
    | 21 => .isDirectory
    | 36 => .nameTooLong
    | other => .refused other words.capitalize

/-- What reading a path gives. -/
def readPath (path : String) : IO (Except FileError String) := do
  try return .ok (← IO.FS.readFile path)
  catch e => return .error (fileErrorOf e)

/-- Whether a path leads to anything, be it readable or not. -/
def isTherePath (path : String) : IO Bool := do
  try
    let _ ← IO.FS.realPath path
    return true
  catch _ => return false

/-- A view of the paths that have been read and of those that something was found at. -/
def viewOf (read : List (String × Except FileError String)) (there : List String) : View where
  read path := (read.lookup path).getD (.error .notFound)
  isThere path := path ∈ there

/-- What writing a file gives. What is still held back is written before the file is closed, so
that a failure is noticed. -/
def writePath (path content : String) : IO (Except FileError Unit) := do
  try
    IO.FS.withFile path .write fun file => do
      file.putStr content
      file.flush
    return .ok ()
  catch e => return .error (fileErrorOf e)

/-- The outcome of a plan. -/
def Plan.perform : Plan → IO Outcome
  | .stop outcome => return outcome
  | .write path content next => return next (← writePath path content)

/-- The time now, in the universal time zone. -/
def timestamp : IO String := do
  let now ← Std.Time.Timestamp.now
  return (Std.Time.DateTime.ofTimestampWithZone now Std.Time.TimeZone.UTC).format
    "uuuu-MM-dd'T'HH:mm:ss.SSSSSSSSSxxx"

/-- Does what the arguments ask for. -/
def perform (arguments : List String) : IO Outcome :=
  match invocation arguments with
  | .ok i => do
    let read ← i.sources.mapM fun path => do return (path, ← readPath path)
    let there ← i.probes.filterM isTherePath
    (i.plan (viewOf read there) (← timestamp)).perform
  | .error ending => return ending.outcome

end CommandLine

end PayloadRules

open PayloadRules.CommandLine in
def main (arguments : List String) : IO UInt32 := do
  let outcome ← perform arguments
  outcome.stderr.forM IO.eprintln
  outcome.stdout.forM fun line => IO.println line
  return outcome.exit.toUInt32
