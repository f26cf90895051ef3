import PayloadRules.Dict
import PayloadRules.Json.Members
import PayloadRules.Toml.Reader
import PayloadRules.Toml.Writer

/-!
# Configuration

A configuration says in which locale labels are made, which locale stands in for
missing phrases, which phrases replace the bundled ones, and which rule
identifiers stand for others. Everything in it may be left out, and what it does
not know is ignored.

It is kept in a TOML file and also read from JSON. Written and read again it is
the same configuration.
-/

namespace PayloadRules

/-- The settings of a compilation. -/
structure Config where
  locale : String := "en"
  fallbackLocale : String := "ja"
  /-- Templates by locale and message key. -/
  messages : Dict (Dict String) := Dict.empty
  /-- Target identifiers by alias. -/
  aliases : Dict String := Dict.empty
deriving DecidableEq

namespace Config

/-- The settings that hold where nothing is configured. -/
def standard : Config := {}

/-! ## From JSON -/

/-- The dictionary of an object whose values all read. -/
def dictOfJson? {α : Type} (read : Json → Option α) : Json → Option (Dict α)
  | .obj members => do
    let entries ← members.mapM fun m => (read m.2).map fun v => (m.1, v)
    return Dict.ofList entries
  | _ => none

def aliasesOfJson? (v : Json) : Option (Dict String) := do
  let ms ← Json.record? ["aliases"] v
  ms.defaulted? "aliases" Dict.empty (dictOfJson? Json.asString?)

/-- The configuration that a JSON value spells. -/
def ofJson? (v : Json) : Option Config := do
  let ms ← Json.record? ["locale", "fallback_locale", "messages", "rules"] v.unique
  return {
    locale := ← ms.defaulted? "locale" standard.locale Json.asString?
    fallbackLocale := ← ms.defaulted? "fallback_locale" standard.fallbackLocale Json.asString?
    messages := ← ms.defaulted? "messages" Dict.empty (dictOfJson? (dictOfJson? Json.asString?))
    aliases := ← ms.defaulted? "rules" Dict.empty aliasesOfJson? }

/-! ## From TOML -/

def textOfToml? : Toml.Value → Option String
  | .text s => some s
  | _ => none

/-- The dictionary of a value whose entries all read. -/
def dictOfToml? {α : Type} (read : Toml.Value → Option α) (v : Toml.Value) :
    Option (Dict α) := do
  let entries ← (← v.entries?).mapM fun e => (read e.2).map fun v => (e.1, v)
  return Dict.ofList entries

/-- A value under a key, or what holds where the key is left out. -/
def keyOrDefault? {α : Type} (entries : Toml.Entries) (key : String) (default : α)
    (read : Toml.Value → Option α) : Option α :=
  match entries.get? key with
  | none => some default
  | some v => read v

/-- The aliases of the rule settings: those under their key, or the first item of
a list. -/
def aliasesOfToml? : Toml.Value → Option (Dict String)
  | .array [] => some Dict.empty
  | .array (first :: _) => dictOfToml? textOfToml? first
  | .tables (first :: _) => dictOfToml? textOfToml? (.table .header first)
  | v => do keyOrDefault? (← v.entries?) "aliases" Dict.empty (dictOfToml? textOfToml?)

def ofEntries? (entries : Toml.Entries) : Option Config := do
  return {
    locale := ← keyOrDefault? entries "locale" standard.locale textOfToml?
    fallbackLocale :=
      ← keyOrDefault? entries "fallback_locale" standard.fallbackLocale textOfToml?
    messages :=
      ← keyOrDefault? entries "messages" Dict.empty (dictOfToml? (dictOfToml? textOfToml?))
    aliases := ← keyOrDefault? entries "rules" Dict.empty aliasesOfToml? }

/-- The configuration that a TOML text spells. -/
def parse? (text : String) : Option Config := (Toml.parse? text).bind ofEntries?

/-! ## To TOML -/

/-- The tables of the message templates; an empty one when there are none. -/
def messagesText (messages : Dict (Dict String)) : String :=
  if messages.entries.isEmpty then Toml.tableText ["messages"] []
  else String.join (messages.entries.map fun e => Toml.tableText ["messages", e.1] e.2.entries)

/-- The TOML text of a configuration. -/
def text (c : Config) : String :=
  Toml.assignment "locale" c.locale
    ++ Toml.assignment "fallback_locale" c.fallbackLocale
    ++ messagesText c.messages
    ++ Toml.tableText ["rules", "aliases"] c.aliases.entries

end Config

end PayloadRules
