import PayloadRules.CommandLine.Arguments
import PayloadRules.CommandLine.Files
import PayloadRules.Message.Catalog
import PayloadRules.Report
import PayloadRules.Request.Compile
import PayloadRules.Request.Form
import PayloadRules.Rule.Registry

/-!
# Plans

What a command does is worked out before it touches a file: from what it can see
of the file system it makes a plan, which either is over or writes one file and
goes on from there. A plan writes at most once, and whatever can go wrong in
reading goes wrong before that.

An outcome is the exit status and the lines on the two streams. Status 0 means
success, 1 a failure of any kind.
-/

namespace PayloadRules

namespace CommandLine

/-! ## Plans and outcomes -/

/-- What a command sees of the file system. -/
structure View where
  read : String → Except FileError String
  isThere : String → Bool

/-- How a command ends. -/
structure Outcome where
  exit : Nat
  stdout : List String := []
  stderr : List String := []
deriving DecidableEq, Repr

/-- Either over, or one file to write and how to go on. -/
inductive Plan where
  | stop (outcome : Outcome)
  | write (path content : String) (next : Except FileError Unit → Outcome)

namespace Plan

/-- A failure after lines on the error stream. -/
def failure (stderr : List String) (message : String) : Outcome :=
  { exit := 1, stderr := stderr ++ ["Error: " ++ message] }

/-- Carries a plan out. A file that cannot be written leaves the files alone. -/
def run (fs : Files) : Plan → Outcome × Files
  | stop outcome => (outcome, fs)
  | write path content next =>
    match fs.write path content with
    | .ok after => (next (.ok ()), after)
    | .error e => (next (.error e), fs)

end Plan

/-- A line that is written in verbose runs only. -/
def ifVerbose (verbose : Bool) (line : String) : List String := if verbose then [line] else []

/-! ## Reading -/

/-- The configuration in a file. -/
def readConfig (view : View) (path : String) : Except String Config :=
  match view.read path with
  | .error e => .error ("IO error: " ++ e.message)
  | .ok text =>
    match Config.parse? text with
    | some config => .ok config
    | none => .error "Parse error"

/-- The file a configuration is read from when none is named. -/
def configFile : String := "reqschema.toml"

/-- The configuration of an invocation, and the lines about it. -/
def loadConfig (view : View) (named : Option String) (verbose : Bool) :
    Except String (Config × List String) := do
  let (config, notes) ← match named with
    | some path => pure (← readConfig view path, [])
    | none =>
      if view.isThere configFile then pure (← readConfig view configFile, [])
      else pure (Config.standard,
        ifVerbose verbose "No config file found, using defaults")
  let localeLine :=
    "Using locale: " ++ config.locale ++ " (fallback " ++ config.fallbackLocale ++ ")"
  return (config, notes ++ ifVerbose verbose localeLine)

/-- The requests in a file. -/
def readRequests (view : View) (path : String) : Except String (List Request) :=
  match view.read path with
  | .error _ => .error ("Failed to read " ++ path)
  | .ok text =>
    match Request.definitions? text with
    | some requests => .ok requests
    | none => .error ("Failed to parse request definitions in " ++ path)

/-- The registry of a configuration. -/
def registryOf (config : Config) : Registry := Registry.withAliases config.aliases.entries

/-! ## Compiling -/

/-- What has been compiled so far, the error lines, and how many requests failed. -/
structure Progress where
  compiled : Table CompiledRequest
  lines : List String
  /-- A signed counter of thirty-two bits would count the same. A request that fails has a
  field with a schema, so it takes more than twenty characters of a file that is read as a
  whole, and a file with more failing requests than such a counter counts would take more
  than forty gigabytes. -/
  failed : Nat

/-- The lines about a request that does not compile. -/
def errorLines (r : Request) : CompileError → List String
  | .inconsistent request ds =>
    ("Invalid schema definition in " ++ request)
      :: ds.map fun d => "  [" ++ d.code.name ++ "] " ++ d.message
  | e => ["Failed to compile " ++ r.name ++ ": " ++ e.message]

/-- Compiles one more request. A later request of the same name replaces the
compiled earlier one. -/
def Progress.compile (resolve : Resolver) (format : Formatter) (verbose : Bool)
    (p : Progress) (r : Request) : Progress :=
  let lines := p.lines ++ ifVerbose verbose ("  Compiling " ++ r.name ++ "...")
  match r.compile resolve format with
  | .ok out => { p with compiled := p.compiled.put r.name out, lines }
  | .error e => { p with lines := lines ++ errorLines r e, failed := p.failed + 1 }

/-- The JSON text of compiled requests. -/
def compiledText (compiled : Table CompiledRequest) : String :=
  (Json.obj (compiled.entries.map fun e => (e.1, e.2.toJson))).indented

/-- How compiling ends once the output has been put out. -/
def compileOutcome (requests : List Request) (p : Progress) (stdout notes : List String) :
    Outcome :=
  if p.failed = 0 then { exit := 0, stdout, stderr := p.lines ++ notes }
  else
    let summary :=
      p.failed.repr ++ " of " ++ requests.length.repr ++ " requests failed to compile"
    { exit := 1, stdout, stderr := p.lines ++ notes ++ [summary] }

def compilePlan (view : View) (config : Config) (lines : List String) (verbose : Bool)
    (file : String) (output locale : Option String) : Plan :=
  match readRequests view file with
  | .error message => .stop (Plan.failure lines message)
  | .ok requests =>
    let catalog := Catalog.ofConfig config
    let catalog := (locale.map catalog.withLocale).getD catalog
    let p := requests.foldl
      (Progress.compile (registryOf config).resolve catalog.format verbose)
      ⟨Table.empty, lines, 0⟩
    let text := compiledText p.compiled
    match output with
    | none => .stop (compileOutcome requests p [text] [])
    | some path => .write path text fun
      | .error e => Plan.failure p.lines e.message
      | .ok () =>
        compileOutcome requests p [] (ifVerbose verbose ("Output saved to: " ++ path))

/-! ## Checking -/

/-- The lines about one diagnostic. -/
def diagnosticLines (d : Diagnostic) : List String :=
  ("  [" ++ d.code.name ++ "] " ++ d.message)
    :: (d.request.toList.map fun r => "    in " ++ r)
    ++ (d.expected.toList.map fun e => "    Expected: " ++ e)
    ++ (d.actual.toList.map fun a => "    Actual:   " ++ a)

def ruleLine : String := String.ofList (List.replicate 60 '=')

/-- A report for people. -/
def reportLines (r : Report) : List String :=
  ["", ruleLine, "Schema Declaration Check Report", ruleLine, "",
    "Version: " ++ r.version.text, "Timestamp: " ++ r.timestamp, "",
    "Summary:",
    "  Requests checked: " ++ r.summary.requestsChecked.toNat.repr,
    "  Fields checked:   " ++ r.summary.fieldsChecked.toNat.repr,
    "  Diagnostics:      " ++ r.summary.total.toNat.repr]
  ++ (if 0 < r.summary.total then
      ["  Failed requests:  " ++ r.summary.requestsFailed.toNat.repr] else [])
  ++ [""]
  ++ (if r.diagnostics.isEmpty then ["✓ No issues found!"]
      else "Diagnostics:" :: r.diagnostics.flatMap diagnosticLines)
  ++ ["", ruleLine]

/-- The lines about the check of one request. -/
def checkLines (r : Request) (found : List Diagnostic) : List String :=
  ["  Checking " ++ r.name ++ "...",
    if found.isEmpty then "    ✓ OK" else "    " ++ found.length.repr ++ " diagnostics found"]

/-- Checks one more request. -/
def checkRequest (verbose : Bool) (state : Report × List String) (r : Request) :
    Report × List String :=
  let found := r.check
  (state.1.addRequest r.fields.length found,
    state.2 ++ if verbose then checkLines r found else [])

/-- Checks the requests of files, up to the first file that cannot be read. On
failure the lines so far come with the message. -/
def checkFiles (view : View) (verbose : Bool) (state : Report × List String) :
    List String → Except (List String × String) (Report × List String)
  | [] => .ok state
  | file :: rest =>
    match readRequests view file with
    | .error message => .error (state.2, message)
    | .ok requests =>
      checkFiles view verbose (requests.foldl (checkRequest verbose) state) rest

def checkPlan (view : View) (timestamp : String) (lines : List String) (verbose : Bool)
    (files : List String) (output : String) : Plan :=
  let lines := lines ++ ifVerbose verbose "Running schema declaration checks..."
  match checkFiles view verbose (Report.new timestamp, lines) files with
  | .error (lines, message) => .stop (Plan.failure lines message)
  | .ok (report, lines) => .write output report.text fun
    | .error e => Plan.failure lines e.message
    | .ok () =>
      { exit := if report.hasErrors then 1 else 0
        stdout := reportLines report
        stderr := lines ++ ifVerbose verbose ("Report saved to: " ++ output) }

/-! ## Writing a configuration -/

def initConfigPlan (view : View) (lines : List String) (verbose : Bool) (path : String) :
    Plan :=
  if view.isThere path then .stop (Plan.failure lines (path ++ " already exists"))
  else .write path Config.standard.text fun
    | .error e => Plan.failure lines ("IO error: " ++ e.message)
    | .ok () =>
      { exit := 0
        stdout := ["Created " ++ path]
        stderr := lines ++ ifVerbose verbose ("Config written to: " ++ path) }

/-! ## Invocations -/

/-- The plan of an invocation. -/
def Invocation.plan (view : View) (timestamp : String) (i : Invocation) : Plan :=
  match loadConfig view i.config i.verbose with
  | .error message =>
    .stop (Plan.failure [] message)
  | .ok (config, lines) =>
    match i.command with
    | .compile file output locale =>
      compilePlan view config lines i.verbose file output locale
    | .check files output => checkPlan view timestamp lines i.verbose files output
    | .initConfig path => initConfigPlan view lines i.verbose path

/-- The outcome when no command is run, which changes nothing. -/
def Ending.outcome : Ending → Outcome
  | version => { exit := 0, stdout := ["reqschema 0.1.0"] }
  | help => { exit := 0 }
  | misuse => { exit := 2 }

/-- What a file system shows. -/
def Files.view (fs : Files) : View := ⟨fs.read, fs.isThere⟩

/-- Does what the arguments ask for. -/
def run (timestamp : String) (fs : Files) (arguments : List String) : Outcome × Files :=
  match invocation arguments with
  | .ok i => (i.plan fs.view timestamp).run fs
  | .error ending => (ending.outcome, fs)

end CommandLine

end PayloadRules
