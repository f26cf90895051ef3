import PayloadRules.Config
import PayloadRules.Message.Key
import PayloadRules.Message.Template

/-!
# Message catalogs

A catalog holds templates by locale and message key, and says which locale is
active and which stands in for it. The template of a key is looked for in the
active locale, then in the fallback locale; when both lack it the key's own name
is the text, so formatting never fails.

Templates are kept latest first, and the latest one of a locale and key counts.
-/

namespace PayloadRules

/-- Templates by locale and key, the latest first. -/
structure Catalog where
  locale : String
  fallbackLocale : String
  templates : List ((String × MessageKey) × String)

namespace Catalog

/-! ## Filling -/

/-- The catalog without templates. -/
def empty (locale fallbackLocale : String) : Catalog := ⟨locale, fallbackLocale, []⟩

/-- Adds a template, or replaces the one of its locale and key. -/
def insert (c : Catalog) (locale : String) (key : MessageKey) (template : String) : Catalog :=
  { c with templates := ((locale, key), template) :: c.templates }

/-- The templates that come with this library. -/
def bundledTemplates : List ((String × MessageKey) × String) :=
  [(("en", .arrayItems), "Each item of :description"),
    (("en", .nestedArrayItem), "Row :position of :arrayName: \":description\""),
    (("en", .nestedArrayItems), "Each item of row :position of :arrayName: \":description\""),
    (("ja", .arrayItems), ":descriptionの各項目"),
    (("ja", .nestedArrayItem), ":arrayNameの :position 行目の「:description」"),
    (("ja", .nestedArrayItems), ":arrayNameの :position 行目の「:description」の各項目")]

/-- The catalog with the bundled templates. -/
def bundled (locale fallbackLocale : String) : Catalog :=
  ⟨locale, fallbackLocale, bundledTemplates⟩

/-- The templates of a configuration, in its order; keys that are no message keys
are left out. -/
def configuredTemplates (config : Config) : List ((String × MessageKey) × String) :=
  config.messages.entries.flatMap fun (locale, templates) =>
    templates.entries.filterMap fun (name, template) =>
      (MessageKey.ofName? name).map fun key => ((locale, key), template)

/-- The bundled catalog with the locales and templates of a configuration. -/
def ofConfig (config : Config) : Catalog :=
  (configuredTemplates config).foldl (fun c e => c.insert e.1.1 e.1.2 e.2)
    (bundled config.locale config.fallbackLocale)

/-- Makes another locale the active one. -/
def withLocale (c : Catalog) (locale : String) : Catalog := { c with locale := locale }

/-! ## Looking up -/

/-- The template of a locale and key. -/
def lookup (c : Catalog) (locale : String) (key : MessageKey) : Option String :=
  c.templates.lookup (locale, key)

/-- The template of a key. -/
def template? (c : Catalog) (key : MessageKey) : Option String :=
  c.lookup c.locale key <|> c.lookup c.fallbackLocale key

/-- The text of a key with parameters. -/
def format (c : Catalog) : Formatter := fun key params =>
  match c.template? key with
  | some template => Template.render template params
  | none => key.name

end Catalog

end PayloadRules
