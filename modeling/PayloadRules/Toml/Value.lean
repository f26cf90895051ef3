import PayloadRules.Table
import PayloadRules.Toml.Moment

/-!
# TOML tables

A TOML document is built statement by statement. Every table remembers how it
came about, since that decides what may be added to it later:

- a *header* table has had its own header and takes no second one, and no dotted
  key reaches into it;
- an *implied* table was only passed through by a longer header and may still
  get its own;
- a *dotted* table was made by a dotted key and is extended by dotted keys only;
- an *inline* table is complete.

A list of tables grows by one table per header; what follows goes into its last
table. Strings are the only scalars whose content matters here.
-/

namespace PayloadRules

namespace Toml

/-- How a table came about. -/
inductive Origin where
  | header
  | implied
  | dotted
  | inline
deriving DecidableEq, Repr

/-- A value of a document. -/
inductive Value where
  | text (value : String)
  /-- A number or a truth value. -/
  | scalar
  | moment (value : Moment)
  | array (items : List Value)
  | table (origin : Origin) (entries : List (String × Value))
  | tables (items : List (List (String × Value)))
deriving Inhabited

/-- Values by key, in the order of the document. -/
abbrev Entries := List (String × Value)

/-- The key under which a moment shows its text. -/
def momentKey : String := "$__toml_private_datetime"

/-- The entries of a value that shows any: those of a table, and of a moment its
text. -/
def Value.entries? : Value → Option Entries
  | .table _ entries => some entries
  | .moment m => some [(momentKey, .text m.text)]
  | _ => none

namespace Entries

/-- The value of a key. -/
def get? (entries : Entries) (key : String) : Option Value := entries.lookup key

/-- Replaces the value of a key, or appends one. -/
def set (entries : Entries) (key : String) (value : Value) : Entries :=
  Table.replaceIn key value entries

/-- Changes the last of the tables of a list. -/
def changeLast (change : Entries → Option Entries) : List Entries → Option (List Entries)
  | [] => none
  | [last] => do return [← change last]
  | first :: rest => do return first :: (← changeLast change rest)

/-- Changes the table that a header path leads to. Missing tables on the way are
implied. -/
def changeAt (change : Entries → Option Entries) : List String → Entries → Option Entries
  | [], entries => change entries
  | key :: path, entries =>
    match entries.get? key with
    | none => do return entries.set key (.table .implied (← changeAt change path []))
    | some (.table .inline _) => none
    | some (.table origin inner) => do
      return entries.set key (.table origin (← changeAt change path inner))
    | some (.tables items) => do
      return entries.set key (.tables (← changeLast (changeAt change path) items))
    | some _ => none

/-- Gives the table called `key` its header. -/
def openTable (key : String) (entries : Entries) : Option Entries :=
  match entries.get? key with
  | none => some (entries.set key (.table .header []))
  | some (.table .implied inner) => some (entries.set key (.table .header inner))
  | some _ => none

/-- Starts one more table of the list called `key`. -/
def openArrayTable (key : String) (entries : Entries) : Option Entries :=
  match entries.get? key with
  | none => some (entries.set key (.tables [[]]))
  | some (.tables items) => some (entries.set key (.tables (items ++ [[]])))
  | some _ => none

/-- Adds a value under a dotted key. The keys before the last one lead through
tables made by dotted keys, or implied by headers and not the last ones. The
truth value tells whether the table reached so far may take the value itself. -/
def addUnder (key : String) (value : Value) : Bool → List String → Entries → Option Entries
  | mayTake, [], entries =>
    if mayTake ∧ (entries.get? key).isNone then some (entries.set key value) else none
  | _, step :: path, entries =>
    match entries.get? step with
    | none => do
      return entries.set step (.table .dotted (← addUnder key value true path []))
    | some (.table .dotted inner) => do
      return entries.set step (.table .dotted (← addUnder key value true path inner))
    | some (.table .implied inner) => do
      return entries.set step (.table .implied (← addUnder key value false path inner))
    | some (.tables items) => do
      return entries.set step (.tables (← changeLast (addUnder key value false path) items))
    | some _ => none

/-- Adds a value under a dotted key, given as the keys before the last one and
the last one. -/
def add (path : List String) (key : String) (value : Value) (entries : Entries) :
    Option Entries :=
  entries.addUnder key value true path

end Entries

/-! ## Documents -/

/-- A statement of a document. Paths are the keys before the last one. -/
inductive Statement where
  | header (path : List String) (key : String)
  | arrayHeader (path : List String) (key : String)
  | assign (path : List String) (key : String) (value : Value)

/-- The tables read so far, and the path of the one that assignments go to. -/
structure Document where
  entries : Entries
  current : List String

/-- The document after one more statement. -/
def Document.apply (d : Document) : Statement → Option Document
  | .header path key => do
    return ⟨← d.entries.changeAt (Entries.openTable key) path, path ++ [key]⟩
  | .arrayHeader path key => do
    return ⟨← d.entries.changeAt (Entries.openArrayTable key) path, path ++ [key]⟩
  | .assign path key value => do
    return ⟨← d.entries.changeAt (Entries.add path key value) d.current, d.current⟩

/-- The entries of the document that statements describe. -/
def ofStatements? (statements : List Statement) : Option Entries :=
  (statements.foldlM Document.apply ⟨[], []⟩).map Document.entries

end Toml

end PayloadRules
