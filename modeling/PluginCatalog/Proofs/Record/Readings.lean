import PluginCatalog.Proofs.Locale.Changes
import PluginCatalog.Proofs.Record.Coherence
import PluginCatalog.Record.Reading

/-!
# How readings depend on the locale

A record depends on the locale as the policy of its titles allows. Titles that are translated at each
reading do not depend on the locale in which the source was read (`Record.normalize_of_lazy`), and are
read in the locale of the moment. Titles that are fixed are read as they were when the record was made,
and so is everything else (`Record.read_of_eager`): also a lookup that finds no property, and then looks
at the titles. Steps that change the locale in between do not matter (`Record.read_run`).
-/

namespace PluginCatalog

open Metadata (Declaration Source)

/-- The text at the moment is that in the current locale. -/
theorem DisplayText.current_eq_resolve (env : Environment) (text : DisplayText) :
    text.current env = text.resolve env.locale := by
  cases text <;> rfl

namespace Record

/-- A source whose titles are translated at each reading gives the same in every locale. -/
theorem normalize_of_lazy {source : Source} (h : source.policy = .lazy) (locale locale' : String)
    (libraryPath entryPath : String) :
    normalize locale source libraryPath entryPath = normalize locale' source libraryPath entryPath := by
  have htitles (d : Declaration) : d.titles locale source.policy = d.titles locale' source.policy := by
    rw [h]
    rfl
  unfold normalize
  dsimp only
  rw [htitles]

variable {r : Record}

/-- Titles that are fixed are the same in every locale. -/
theorem titles_of_eager (h : r.policy = .eager) (locale locale' : String) :
    r.name locale = r.name locale' ∧ r.comment locale = r.comment locale' := by
  unfold policy at h
  unfold Record.name Record.comment
  cases htitles : r.titles with
  | frozen name comment => exact ⟨rfl, rfl⟩
  | translatable name comment =>
    rw [htitles] at h
    cases h

/-- With them every lookup is the same in every locale. -/
theorem lookup_of_eager (h : r.policy = .eager) (locale locale' : String) :
    r.lookup locale = r.lookup locale' := by
  obtain ⟨hname, hcomment⟩ := titles_of_eager h locale locale'
  funext key
  unfold lookup
  rw [hname, hcomment]

/-- A record with titles that are fixed is read alike in all surroundings. -/
theorem read_of_eager (h : r.policy = .eager) (env env' : Environment) : r.read env = r.read env' := by
  obtain ⟨hname, hcomment⟩ := titles_of_eager h env.locale env'.locale
  have hname' : r.titles.name.current env = r.titles.name.current env' := by
    rw [DisplayText.current_eq_resolve, DisplayText.current_eq_resolve]
    exact hname
  have hcomment' : r.titles.comment.current env = r.titles.comment.current env' := by
    rw [DisplayText.current_eq_resolve, DisplayText.current_eq_resolve]
    exact hcomment
  unfold read
  rw [hname', hcomment', lookup_of_eager h env.locale env'.locale]

/-- The titles of a record are those that its source declares, in the locale in which it was read if they
are fixed. -/
theorem titles_of_normalize {locale libraryPath entryPath : String} {source : Source}
    (h : normalize locale source libraryPath entryPath = .ok (some r)) :
    r.titles = (Declaration.ofSource source).titles locale source.policy := by
  obtain ⟨id, rfl⟩ := exists_record_of_normalize h
  rfl

/-- The locale matters to a record only as the policy of its titles allows, whatever steps change it. A
source whose titles are translated at each reading gives the same record, or the same error, after the
steps as before. A record with fixed titles, also with custom properties, is read after the steps as when
it was made, and its titles are those that were declared for the locale of that moment. Titles that are
translated at each reading are those that were declared for the locale that the last steps name. -/
theorem read_run (env : Environment) (steps : List LocaleStep) :
    (env.run steps).locale = env.localeAfter steps ∧
    (∀ (source : Source) (libraryPath entryPath : String), source.policy = .lazy →
      normalize (env.run steps).locale source libraryPath entryPath
        = normalize env.locale source libraryPath entryPath) ∧
    ∀ (source : Source) (libraryPath entryPath : String) (r₀ : Record)
      (properties : List (String × Value)),
      normalize env.locale source libraryPath entryPath = .ok (some r₀) →
      let r := r₀.withProperties properties
      let declared := Declaration.ofSource source
      (source.policy = .eager →
        r.read (env.run steps) = r.read env ∧
          (∀ locale, r.name locale = (r.read env).name ∧ r.comment locale = (r.read env).comment) ∧
          (r.read env).name = declared.name.resolve env.locale ∧
          (r.read env).comment = declared.comment.resolve env.locale) ∧
      (source.policy = .lazy →
        (r.read (env.run steps)).name = r.name (env.run steps).locale ∧
          (r.read (env.run steps)).comment = r.comment (env.run steps).locale ∧
          ∀ locale, r.name locale = declared.name.resolve locale ∧
            r.comment locale = declared.comment.resolve locale) := by
  refine ⟨env.locale_run steps, fun source libraryPath entryPath hlazy => ?_,
    fun source libraryPath entryPath r₀ properties hr => ?_⟩
  · exact normalize_of_lazy hlazy _ _ libraryPath entryPath
  · intro r declared
    -- Custom properties leave the titles alone, so they are the declared ones throughout.
    have htitles : r.titles = declared.titles env.locale source.policy :=
      (r₀.titles_withProperties properties).trans (titles_of_normalize hr)
    have hcurrent (env' : Environment) : (r.read env').name = r.name env'.locale ∧
        (r.read env').comment = r.comment env'.locale :=
      ⟨DisplayText.current_eq_resolve env' _, DisplayText.current_eq_resolve env' _⟩
    refine ⟨fun heager => ?_, fun hlazy => ?_⟩
    · have hpolicy : r.policy = .eager := by
        rw [policy, htitles, heager]
        rfl
      refine ⟨read_of_eager hpolicy _ _, fun locale => ?_, ?_, ?_⟩
      · rw [(hcurrent env).1, (hcurrent env).2]
        exact titles_of_eager hpolicy locale env.locale
      · rw [(hcurrent env).1, Record.name, htitles, heager]
        rfl
      · rw [(hcurrent env).2, Record.comment, htitles, heager]
        rfl
    · refine ⟨(hcurrent _).1, (hcurrent _).2, fun locale => ?_⟩
      rw [Record.name, Record.comment, htitles, hlazy]
      exact ⟨rfl, rfl⟩

/-- Flat metadata with a translated name. -/
def translatedProperties : Source :=
  .flat (.ofList [("X-Plugin-Id", .text "spy"), ("X-Plugin-EnabledByDefault", .bool true),
    ("Name", .text "Spy"), ("Name[de]", .text "Spion")])

/-- A plugin that was found in German keeps its German name when the locale is left to a variable, also
if the name is deleted from its properties. -/
theorem read_run_german :
    let env := Environment.bare.chooseLocale "de"
    let steps := [.assign "LC_ALL" (some "fr"), .clear, .assign "LANG" (some "en")]
    (env.run steps).locale = "fr" ∧
      ∃ r, normalize env.locale translatedProperties "" "" = .ok (some r) ∧
        ((r.withProperty "Name" .absent).read (env.run steps)).property "Name" = .text "Spion" := by
  intro env steps
  have hr : normalize env.locale translatedProperties "" "" = .ok (some _) := rfl
  obtain ⟨hlocale, -, hread⟩ := read_run env steps
  have h := (hread _ _ _ _ [("Name", .absent)] hr).1 rfl
  refine ⟨hlocale.trans (by decide), _, hr, ?_⟩
  exact (congrFun (congrArg Reading.property h.1) "Name").trans (by decide)

end Record

end PluginCatalog
