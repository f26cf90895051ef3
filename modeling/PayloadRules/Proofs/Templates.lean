import Mathlib.Data.List.Basic
import PayloadRules.Message.Catalog
import PayloadRules.Proofs.Latest
import PayloadRules.Proofs.Table

/-!
# Which template a key is rendered with

A catalog is filled from three sources, each over the one before: the bundled templates, those
of a configuration, and what is inserted later. All three are kept by locale and key, so a
template stands for its own locale and key alone, whatever else its source brings
(`lookup_changed`). Names in a configuration that no key has fill nothing.

Which locale is active is kept apart from the templates. Formatting asks the active locale,
then the fallback locale, and falls back on the name of the key.
-/

namespace PayloadRules

namespace Dict

variable {α : Type}

theorem nodup_keys (d : Dict α) : (d.entries.map Prod.fst).Nodup := by
  rw [List.Nodup, List.pairwise_map]
  exact d.sorted.imp fun lower => String.ne_of_lt lower

theorem get?_eq_some_iff {d : Dict α} {key : String} {value : α} :
    d.get? key = some value ↔ (key, value) ∈ d.entries := by
  constructor
  · intro found
    unfold get? at found
    rw [List.lookup_eq_some_iff] at found
    obtain ⟨front, rest, split, -⟩ := found
    rw [split]
    exact List.mem_append_right front List.mem_cons_self
  · intro there
    exact Table.get?_of_mem_entries (t := ⟨d.entries, d.nodup_keys⟩) there

@[simp]
theorem get?_empty (key : String) : (empty : Dict α).get? key = none := rfl

end Dict

theorem MessageKey.ofName?_eq_some_iff {name : String} {key : MessageKey} :
    ofName? name = some key ↔ key.name = name := by
  constructor
  · intro found
    unfold ofName? at found
    simpa using List.find?_some found
  · rintro rfl
    cases key <;> decide

namespace Config

/-- The template that a configuration gives under a locale and a name. -/
def template? (config : Config) (locale name : String) : Option String :=
  (config.messages.get? locale).bind fun templates => templates.get? name

/-- The configuration with another template under a locale and a name. -/
def withTemplate (config : Config) (locale name template : String) : Config :=
  let templates := (config.messages.get? locale).getD Dict.empty
  { config with messages := config.messages.insert locale (templates.insert name template) }

/-- One template changes. -/
theorem template?_withTemplate (config : Config) (locale name template l n : String) :
    (config.withTemplate locale name template).template? l n =
      if l = locale ∧ n = name then some template else config.template? l n := by
  unfold template? withTemplate
  rw [Dict.get?_insert]
  by_cases here : l = locale
  · subst here
    cases config.messages.get? l with
    | none => simp
    | some templates => simp
  · simp [here]

end Config

namespace Catalog

/-- A change to a catalog. -/
inductive Change where
  | insert (locale : String) (key : MessageKey) (template : String)
  | withLocale (locale : String)

namespace Change

/-- The template that a change brings. -/
def template? : Change → Option ((String × MessageKey) × String)
  | insert locale key template => some ((locale, key), template)
  | withLocale _ => none

/-- The locale that a change makes the active one. -/
def locale? : Change → Option String
  | insert _ _ _ => none
  | withLocale locale => some locale

end Change

/-- The catalog after a change. -/
def change (c : Catalog) : Change → Catalog
  | .insert locale key template => c.insert locale key template
  | .withLocale locale => c.withLocale locale

/-- The catalog after some changes. -/
def changeAll (c : Catalog) (changes : List Change) : Catalog := changes.foldl change c

/-! ## Changes -/

theorem templates_changeAll (c : Catalog) (changes : List Change) :
    (c.changeAll changes).templates =
      (changes.filterMap Change.template?).reverse ++ c.templates := by
  apply entries_foldl Catalog.templates
  intro s e
  cases e <;> rfl

theorem lookup_changeAll (c : Catalog) (changes : List Change) (locale : String)
    (key : MessageKey) :
    (c.changeAll changes).lookup locale key =
      (latest? Change.template? changes (locale, key)).or (c.lookup locale key) := by
  apply lookup_foldl Catalog.templates
  intro s e
  cases e <;> rfl

theorem fallbackLocale_changeAll (c : Catalog) (changes : List Change) :
    (c.changeAll changes).fallbackLocale = c.fallbackLocale := by
  unfold changeAll
  induction changes generalizing c with
  | nil => rfl
  | cons e rest ih =>
    rw [List.foldl_cons, ih]
    cases e <;> rfl

/-- The active locale is the last one that was made it. -/
theorem locale_changeAll (c : Catalog) (changes : List Change) :
    (c.changeAll changes).locale =
      ((changes.filterMap Change.locale?).getLast?).getD c.locale := by
  unfold changeAll
  induction changes generalizing c with
  | nil => rfl
  | cons e rest ih =>
    rw [List.foldl_cons, ih]
    cases e with
    | insert locale key template => rfl
    | withLocale locale => simp [Change.locale?, change, withLocale, List.getLast?_cons]

/-- The catalog after some changes, field by field. -/
theorem changeAll_eq (c : Catalog) (changes : List Change) :
    c.changeAll changes =
      { locale := ((changes.filterMap Change.locale?).getLast?).getD c.locale
        fallbackLocale := c.fallbackLocale
        templates := (changes.filterMap Change.template?).reverse ++ c.templates } := by
  rw [← locale_changeAll, ← templates_changeAll, ← fallbackLocale_changeAll c changes]

/-! ## The templates of a configuration -/

theorem mem_configuredTemplates {config : Config} {locale template : String} {key : MessageKey} :
    ((locale, key), template) ∈ configuredTemplates config ↔
      config.template? locale key.name = some template := by
  unfold configuredTemplates Config.template?
  simp only [List.mem_flatMap, List.mem_filterMap, Option.map_eq_some_iff, Prod.exists,
    Prod.mk.injEq, MessageKey.ofName?_eq_some_iff, Option.bind_eq_some_iff,
    Dict.get?_eq_some_iff]
  constructor
  · rintro ⟨l, templates, there, name, text, inside, k, rfl, ⟨rfl, rfl⟩, rfl⟩
    exact ⟨templates, there, inside⟩
  · rintro ⟨templates, there, inside⟩
    exact ⟨locale, templates, there, key.name, template, inside, key, rfl, ⟨rfl, rfl⟩, rfl⟩

/-- A configuration gives one template under a locale and a name, so the last is the only one. -/
theorem latest?_configuredTemplates (config : Config) (locale : String) (key : MessageKey) :
    latest? some (configuredTemplates config) (locale, key) =
      config.template? locale key.name := by
  cases found : latest? some (configuredTemplates config) (locale, key) with
  | some template =>
    obtain ⟨before, e, after, all, told, -⟩ := latest?_eq_some_iff.mp found
    cases told
    have there : ((locale, key), template) ∈ configuredTemplates config := by
      rw [all]
      exact List.mem_append_right before List.mem_cons_self
    exact (mem_configuredTemplates.mp there).symm
  | none =>
    rw [eq_comm, Option.eq_none_iff_forall_ne_some]
    intro template given
    exact latest?_eq_none_iff.mp found _ (mem_configuredTemplates.mpr given) template rfl

theorem lookup_ofConfig (config : Config) (locale : String) (key : MessageKey) :
    (ofConfig config).lookup locale key =
      (config.template? locale key.name).or (bundledTemplates.lookup (locale, key)) := by
  rw [← latest?_configuredTemplates]
  exact lookup_foldl Catalog.templates (fun _ _ => rfl) _ _ _

/-- The templates of a configuration are inserted one by one. -/
theorem ofConfig_eq_changeAll (config : Config) :
    ofConfig config = (bundled config.locale config.fallbackLocale).changeAll
      ((configuredTemplates config).map fun e => .insert e.1.1 e.1.2 e.2) := by
  unfold ofConfig changeAll
  rw [List.foldl_map]
  rfl

theorem fallbackLocale_ofConfig (config : Config) :
    (ofConfig config).fallbackLocale = config.fallbackLocale := by
  rw [ofConfig_eq_changeAll, fallbackLocale_changeAll]
  rfl

theorem locale_ofConfig (config : Config) : (ofConfig config).locale = config.locale := by
  have none_active : ((configuredTemplates config).map fun e =>
      Change.insert e.1.1 e.1.2 e.2).filterMap Change.locale? = [] := by
    simp [Change.locale?]
  rw [ofConfig_eq_changeAll, locale_changeAll, none_active]
  rfl

/-! ## The catalog after everything -/

/-- The catalog of a configuration after some changes. -/
def changed (config : Config) (changes : List Change) : Catalog :=
  (ofConfig config).changeAll changes

theorem lookup_changed (config : Config) (changes : List Change) (locale : String)
    (key : MessageKey) :
    (changed config changes).lookup locale key =
      (latest? Change.template? changes (locale, key)).or
        ((config.template? locale key.name).or (bundledTemplates.lookup (locale, key))) := by
  rw [changed, lookup_changeAll, lookup_ofConfig]

theorem locale_changed (config : Config) (changes : List Change) :
    (changed config changes).locale =
      ((changes.filterMap Change.locale?).getLast?).getD config.locale := by
  rw [changed, locale_changeAll, locale_ofConfig]

theorem fallbackLocale_changed (config : Config) (changes : List Change) :
    (changed config changes).fallbackLocale = config.fallbackLocale := by
  rw [changed, fallbackLocale_changeAll, fallbackLocale_ofConfig]

theorem format_eq_elim (c : Catalog) (key : MessageKey) (params : List (String × String)) :
    c.format key params =
      ((c.lookup c.locale key).or (c.lookup c.fallbackLocale key)).elim key.name
        fun template => Template.render template params := by
  unfold format template?
  cases c.lookup c.locale key with
  | some template => rfl
  | none => cases c.lookup c.fallbackLocale key <;> rfl

/-! ## What one change leaves alone -/

/-- Whether two catalogs have the same locales and, outside some pairs, the same templates. -/
structure SameBut (pairs : String → MessageKey → Prop) (c d : Catalog) : Prop where
  locale : c.locale = d.locale
  fallbackLocale : c.fallbackLocale = d.fallbackLocale
  lookup : ∀ locale key, ¬ pairs locale key → c.lookup locale key = d.lookup locale key

theorem SameBut.mono {pairs more : String → MessageKey → Prop} {c d : Catalog}
    (same : SameBut pairs c d) (within : ∀ locale key, pairs locale key → more locale key) :
    SameBut more c d :=
  ⟨same.locale, same.fallbackLocale,
    fun locale key outside => same.lookup locale key (outside ∘ within locale key)⟩

/-- Catalogs that agree on all pairs put the same texts. -/
theorem SameBut.format_eq {c d : Catalog} (same : SameBut (fun _ _ => False) c d) :
    c.format = d.format := by
  funext key params
  rw [format_eq_elim, format_eq_elim, same.locale, same.fallbackLocale,
    same.lookup d.locale key id, same.lookup d.fallbackLocale key id]

variable {config : Config} {before after changes : List Change} {locale name template : String}
  {key : MessageKey}

theorem sameBut_insert :
    SameBut (fun l k => l = locale ∧ k = key)
      (changed config (before ++ .insert locale key template :: after))
      (changed config (before ++ after)) := by
  refine ⟨?_, ?_, fun l k other => ?_⟩
  · rw [locale_changed, locale_changed, List.filterMap_append, List.filterMap_append]
    rfl
  · rw [fallbackLocale_changed, fallbackLocale_changed]
  · have silent : Silent Change.template? (.insert locale key template) (l, k) := by
      intro text told
      cases told
      exact other ⟨rfl, rfl⟩
    rw [lookup_changed, lookup_changed, latest?_without silent]

/-- A change of the active locale leaves everything else as it is. -/
theorem changed_withLocale :
    changed config (before ++ .withLocale locale :: after) =
      { changed config (before ++ after) with
        locale := ((after.filterMap Change.locale?).getLast?).getD locale } := by
  have silent : (before ++ .withLocale locale :: after).filterMap Change.template? =
      (before ++ after).filterMap Change.template? := by
    rw [List.filterMap_append, List.filterMap_append, List.filterMap_cons_none rfl]
  have active : ((before ++ .withLocale locale :: after).filterMap Change.locale?).getLast? =
      some (((after.filterMap Change.locale?).getLast?).getD locale) := by
    simp [Change.locale?, List.getLast?_cons]
  rw [changed, changed, changeAll_eq, changeAll_eq, silent, active]
  rfl

theorem sameBut_withTemplate :
    SameBut (fun l k => l = locale ∧ k.name = name)
      (changed (config.withTemplate locale name template) changes) (changed config changes) := by
  refine ⟨?_, ?_, fun l k other => ?_⟩
  · rw [locale_changed, locale_changed]
    rfl
  · rw [fallbackLocale_changed, fallbackLocale_changed]
    rfl
  · rw [lookup_changed, lookup_changed, Config.template?_withTemplate, if_neg other]

/-- A name that no key has fills nothing. -/
theorem same_withTemplate_of_unknown (unknown : MessageKey.ofName? name = none) :
    SameBut (fun _ _ => False)
      (changed (config.withTemplate locale name template) changes) (changed config changes) := by
  refine sameBut_withTemplate.mono fun l k named => ?_
  rw [MessageKey.ofName?_eq_some_iff.mpr named.2] at unknown
  cases unknown

/-- The template of a locale and key is the last one inserted for them, else the one of the
configuration, else the bundled one. A key is rendered with the template of the locale that
was made active last, else with that of the fallback locale, else it is its own name. An
insertion and an entry of the configuration count for their own locale and key alone, an entry
whose name no key has counts for nothing, and making a locale active changes nothing else. -/
theorem templates_in_layers (config : Config) (changes : List Change) :
    (∀ locale key, (changed config changes).lookup locale key =
      (latest? Change.template? changes (locale, key)).or
        ((config.template? locale key.name).or (bundledTemplates.lookup (locale, key)))) ∧
    (∀ key params,
      let active := ((changes.filterMap Change.locale?).getLast?).getD config.locale
      (changed config changes).format key params =
        (((changed config changes).lookup active key).or
          ((changed config changes).lookup config.fallbackLocale key)).elim key.name
            fun template => Template.render template params) ∧
    (∀ before locale key template after,
      changes = before ++ .insert locale key template :: after →
      SameBut (fun l k => l = locale ∧ k = key)
        (changed config changes) (changed config (before ++ after))) ∧
    (∀ locale name template,
      SameBut (fun l k => l = locale ∧ k.name = name)
        (changed (config.withTemplate locale name template) changes) (changed config changes)) ∧
    (∀ locale name template, MessageKey.ofName? name = none →
      SameBut (fun _ _ => False)
        (changed (config.withTemplate locale name template) changes) (changed config changes) ∧
      (changed (config.withTemplate locale name template) changes).format =
        (changed config changes).format) ∧
    (∀ before locale after, changes = before ++ .withLocale locale :: after →
      changed config changes =
        { changed config (before ++ after) with
          locale := ((after.filterMap Change.locale?).getLast?).getD locale }) := by
  refine ⟨lookup_changed config changes, fun key params => ?format, ?insert,
    fun locale name template => sameBut_withTemplate, fun locale name template unknown => ?unknown,
    ?withLocale⟩
  case format =>
    intro active
    rw [format_eq_elim, locale_changed, fallbackLocale_changed]
  case insert =>
    rintro before locale key template after rfl
    exact sameBut_insert
  case unknown =>
    have same : SameBut (fun _ _ => False)
        (changed (config.withTemplate locale name template) changes) (changed config changes) :=
      same_withTemplate_of_unknown unknown
    exact ⟨same, same.format_eq⟩
  case withLocale =>
    rintro before locale after rfl
    exact changed_withLocale

/-- A configuration with a template of its own and one that no key has. -/
def tagConfig : Config :=
  (Config.standard.withTemplate "en" "array_items" "All of :description").withTemplate
    "en" "bogus" "ignored"

/-- A template for a locale, and the locale made active. -/
def frenchChanges : List Change :=
  [.insert "fr" .nestedArrayItem ":description (:position)", .withLocale "fr"]

/-- The new locale has one template, the fallback locale lends the others, and the unknown name
is as if it were not there. -/
theorem templates_of_tags :
    let c := changed tagConfig frenchChanges
    c.lookup "en" .arrayItems = some "All of :description" ∧
      c.lookup "en" .nestedArrayItem = some "Row :position of :arrayName: \":description\"" ∧
      c.format .nestedArrayItem [("description", "Code")] = "Code (:position)" ∧
      c.format .arrayItems [("description", "tags")] = "tagsの各項目" ∧
      c.lookup "fr" .arrayItems = (changed tagConfig [.withLocale "fr"]).lookup "fr" .arrayItems ∧
      c = { changed tagConfig [.insert "fr" .nestedArrayItem ":description (:position)"] with
        locale := "fr" } ∧
      MessageKey.ofName? "bogus" = none ∧
      c.format = (changed (Config.standard.withTemplate "en" "array_items" "All of :description")
        frenchChanges).format := by
  intro c
  obtain ⟨lookup, format, insert, -, -, withLocale⟩ := templates_in_layers tagConfig frenchChanges
  obtain ⟨-, -, -, -, unknown, -⟩ := templates_in_layers
    (Config.standard.withTemplate "en" "array_items" "All of :description") frenchChanges
  have item : c.lookup "en" .arrayItems = some "All of :description" := by
    rw [lookup]
    decide
  refine ⟨item, ?_, ?_, ?_, ?_, ?_, ?_, ?_⟩
  · rw [lookup]
    decide
  · rw [format]
    decide
  · rw [format]
    decide
  · have inserted := insert [] "fr" .nestedArrayItem ":description (:position)"
      [.withLocale "fr"] rfl
    exact inserted.lookup "fr" .arrayItems (by decide)
  · exact withLocale [.insert "fr" .nestedArrayItem ":description (:position)"] "fr" [] rfl
  · decide
  · exact (unknown "en" "bogus" "ignored" (by decide)).2

end Catalog

end PayloadRules
