/-!
# Arguments

The command line is a command with its options and operands. Options have a long
name after two dashes and a letter after one; letters of options without a value
may be run together. A value follows as the next argument, after an equals sign,
or right after the letter. An argument that starts with a dash and is not a lone
dash is never a value. Two dashes alone end the options of a command.

The configuration and verbosity options stand before or after the command; the
value after the command counts. On either side of it an option may stand once.

Arguments are read from left to right and the first one that asks for help or
for the version, or does not fit, ends the reading. It is not said in which way
it does not fit. Only a value that stands as the last argument before the
command is judged after the arguments of the command.
-/

namespace PayloadRules

namespace CommandLine

/-! ## Options -/

inductive Opt where
  | config
  | verbose
  | output
  | locale
  | path
  | version
  | help
deriving DecidableEq, Repr

namespace Opt

def long : Opt → String
  | config => "config"
  | verbose => "verbose"
  | output => "output"
  | locale => "locale"
  | path => "path"
  | version => "version"
  | help => "help"

def letter : Opt → Char
  | config => 'c'
  | verbose => 'v'
  | output => 'o'
  | locale => 'l'
  | path => 'p'
  | version => 'V'
  | help => 'h'

def takesValue : Opt → Bool
  | config | output | locale | path => true
  | verbose | version | help => false

/-- Whether a value is the path of a file, which has a name at least. -/
def takesPath : Opt → Bool
  | config | output | path => true
  | locale | verbose | version | help => false

end Opt

/-! ## Items -/

/-- An option, with its value if it takes one, an operand, or what is neither. The
value of an option stands `apart` when it is an argument of its own. -/
inductive Item where
  | option (name : Opt) (value : String) (apart : Bool)
  | flag (name : Opt)
  | operand (text : String)
  | misfit
deriving DecidableEq, Repr

/-- Options named by letters that are run together; the last one may wait for its
value. -/
def letters (known : List Opt) : List Char → List Item × Option Opt
  | [] => ([], none)
  | c :: rest =>
    match known.find? fun o => o.letter = c with
    | none => ([.misfit], none)
    | some o =>
      if o.takesValue then
        match rest with
        | [] => ([], some o)
        | '=' :: value => ([.option o (String.ofList value) false], none)
        | value => ([.option o (String.ofList value) false], none)
      else
        let (items, waiting) := letters known rest
        (.flag o :: items, waiting)

/-- An option given by its long name, with what follows an equals sign. -/
def long (known : List Opt) (text : List Char) : List Item × Option Opt :=
  let name := String.ofList (text.takeWhile (· ≠ '='))
  match known.find? fun o => o.long = name with
  | none => ([.misfit], none)
  | some o =>
    match text.dropWhile (· ≠ '='), o.takesValue with
    | [], true => ([], some o)
    | [], false => ([.flag o], none)
    | _ :: value, true => ([.option o (String.ofList value) false], none)
    | _ :: _, false => ([.misfit], none)

/-- What an argument is, read by itself. -/
inductive Shape where
  | endOfOptions
  | long (text : List Char)
  | letters (text : List Char)
  | plain
deriving DecidableEq, Repr

def shape (argument : String) : Shape :=
  match argument.toList with
  | ['-', '-'] => .endOfOptions
  | '-' :: '-' :: text => .long text
  | ['-'] => .plain
  | '-' :: text => .letters text
  | _ => .plain

/-- The items of arguments, read while an option may be waiting for its value, up
to the first misfit. Reading also stops at the first operand if `commandNext`
says that it is a command; the arguments from there on are left unread. -/
def items (known : List Opt) (commandNext : Bool) :
    Option Opt → List String → List Item × List String
  | none, [] => ([], [])
  | some _, [] => ([.misfit], [])
  | waiting, argument :: rest =>
    let after (read : List Item × Option Opt) : List Item × List String :=
      let (others, unread) := items known commandNext read.2 rest
      (read.1 ++ others, unread)
    match waiting, shape argument with
    | some o, .plain => after ([.option o argument true], none)
    | some _, _ => ([.misfit], [])
    | none, .plain =>
      if commandNext then ([], argument :: rest) else after ([.operand argument], none)
    | none, .long text => after (long known text)
    | none, .letters text => after (letters known text)
    | none, .endOfOptions =>
      if commandNext then ([.misfit], []) else (rest.map .operand, [])

/-! ## Levels -/

/-- How reading ends when no command is to be run. -/
inductive Ending where
  | version
  | help
  | misuse
deriving DecidableEq, Repr

/-- What the items of one side of the command say. -/
structure Level where
  values : List (Opt × String) := []
  flags : List Opt := []
  operands : List String := []

namespace Level

def value? (l : Level) (o : Opt) : Option String := l.values.lookup o

def has (l : Level) (o : Opt) : Bool := l.flags.contains o || (l.value? o).isSome

/-- The level with one more item, when it takes `most` operands. -/
def add (most : Option Nat) (l : Level) : Item → Except Ending Level
  | .flag .help => .error .help
  | .flag .version => .error .version
  | .flag o => if l.has o then .error .misuse else .ok { l with flags := o :: l.flags }
  | .option o value _ =>
    if l.has o ∨ (o.takesPath ∧ value = "") then .error .misuse
    else .ok { l with values := (o, value) :: l.values }
  | .operand text =>
    if text = "" ∨ most = some l.operands.length then .error .misuse
    else .ok { l with operands := l.operands ++ [text] }
  | .misfit => .error .misuse

/-- The level with more items. -/
def addAll (most : Option Nat) (l : Level) (items : List Item) : Except Ending Level :=
  items.foldlM (add most) l

end Level

/-! ## Commands -/

inductive Command where
  | compile (file : String) (output locale : Option String)
  | check (files : List String) (output : String)
  | initConfig (path : String)
deriving DecidableEq, Repr

/-- A command with the options that every command has. -/
structure Invocation where
  config : Option String
  verbose : Bool
  command : Command
deriving DecidableEq, Repr

/-- The names of the commands. -/
inductive CommandName where
  | compile
  | check
  | initConfig
deriving DecidableEq, Repr

namespace CommandName

def ofText? : String → Option CommandName
  | "compile" => some compile
  | "check" => some check
  | "init-config" => some initConfig
  | _ => none

/-- The options that may follow the name. -/
def options : CommandName → List Opt
  | compile => [.config, .verbose, .output, .locale, .help]
  | check => [.config, .verbose, .output, .help]
  | initConfig => [.config, .verbose, .path, .help]

/-- How many operands may follow the name, if there is a bound. -/
def mostOperands : CommandName → Option Nat
  | compile => some 1
  | check => none
  | initConfig => some 0

/-- The command of the name, unless it lacks an operand. -/
def command? (l : Level) : CommandName → Option Command
  | compile => l.operands.head?.map fun file => .compile file (l.value? .output) (l.value? .locale)
  | check =>
    if l.operands.isEmpty then none
    else some (.check l.operands ((l.value? .output).getD "report.json"))
  | initConfig => some (.initConfig ((l.value? .path).getD "reqschema.toml"))

end CommandName

/-! ## Command lines -/

/-- Reading ends with the help on the words after `help`: nothing, or the name of
a command. -/
def helpOn : List String → Ending
  | [] => .help
  | [name] => if name = "help" ∨ (CommandName.ofText? name).isSome then .help else .misuse
  | _ => .misuse

/-- The last item apart if it is a value that stands as an argument of its own. -/
def splitLate (before : List Item) : List Item × List Item :=
  match before.getLast? with
  | some (.option o value true) => (before.dropLast, [.option o value true])
  | _ => (before, [])

/-- The invocation that arguments spell. -/
def invocation (arguments : List String) : Except Ending Invocation := do
  let (before, rest) := items [.config, .verbose, .version, .help] true none arguments
  let (early, late) := splitLate before
  let outer ← Level.addAll (some 0) {} early
  match rest with
  | [] => throw .misuse
  | "help" :: words => throw (helpOn words)
  | text :: arguments =>
    let some name := CommandName.ofText? text | throw .misuse
    let inner ← Level.addAll name.mostOperands {} (items name.options false none arguments).1
    let some command := name.command? inner | throw .misuse
    let outer ← outer.addAll (some 0) late
    return {
      config := inner.value? .config <|> outer.value? .config
      verbose := inner.has .verbose || outer.has .verbose
      command }

end CommandLine

end PayloadRules
