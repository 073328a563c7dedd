import PluginCatalog.Proofs.Record.FlatForm
import PluginCatalog.Proofs.Record.StructuredForm

/-!
# The names of written translations

A name is split at its locale exactly if it is put together with one (`Metadata.IsLocated`), and stays
whole otherwise. The tags of a record can stand between brackets, so what is written of a translation
under a name with its tag is found there, and the name is split into what it was put together from
(`Record.splitLocale_laws`).
-/

namespace PluginCatalog

open Metadata (Field Source Vocabulary splitLocale withLocale)

namespace Metadata

/-- A name that is put together from a base and a tag in brackets. -/
structure IsLocated (name base tag : String) : Prop where
  eq_append : name = base ++ "[" ++ tag ++ "]"
  base_ne : base ≠ ""
  tag_ne : tag ≠ ""
  /-- The tag begins behind the last opening bracket. -/
  bracket : '[' ∉ tag.toList

/-- A name is split exactly if it is put together. -/
theorem splitLocale_eq_iff_isLocated {name base tag : String} :
    splitLocale name = (base, some tag) ↔ IsLocated name base tag := by
  rw [splitLocale_eq_some_iff]
  exact ⟨fun ⟨heq, hbase, htag, hbracket⟩ => ⟨heq, hbase, htag, hbracket⟩,
    fun h => ⟨h.eq_append, h.base_ne, h.tag_ne, h.bracket⟩⟩

/-- A name stays whole exactly if it is not put together from anything. -/
theorem splitLocale_eq_self_iff {name : String} :
    splitLocale name = (name, none) ↔ ∀ base tag, ¬IsLocated name base tag := by
  constructor
  · intro h base tag hlocated
    rw [splitLocale_eq_iff_isLocated.2 hlocated] at h
    cases h
  · intro h
    rcases hsplit : splitLocale name with ⟨base, _ | tag⟩
    · rw [splitLocale_eq_none hsplit]
    · exact absurd (splitLocale_eq_iff_isLocated.1 hsplit) (h base tag)

end Metadata

namespace Titles

/-- The translations that are kept of a title. -/
def translations (titles : Titles) : Field → Dict String
  | .name => titles.name.translations
  | .comment => titles.comment.translations
  | _ => .empty

/-- What is kept of translations is kept of a title by tags that can stand between brackets. -/
theorem Normal.exists_text {titles : Titles} (h : titles.Normal) {f : Field} {tag s : String}
    (ht : (titles.translations f).get? tag = some s) :
    f.isTitle = true ∧ ∃ text : DisplayText, text.Normal ∧ text.translations.get? tag = some s := by
  cases f with
  | name => exact ⟨rfl, _, h.name, ht⟩
  | comment => exact ⟨rfl, _, h.comment, ht⟩
  | _ => cases ht

end Titles

/-- A tag of a translation is put together with any name. -/
theorem DisplayText.Normal.isLocated {text : DisplayText} (h : text.Normal) {tag s base : String}
    (ht : text.translations.get? tag = some s) (hbase : base ≠ "") :
    Metadata.IsLocated (withLocale base tag) base tag := by
  cases text with
  | frozen text => cases ht
  | translatable table =>
    exact ⟨rfl, hbase, TranslationTable.Normal.ne_empty h ht,
      TranslationTable.Normal.noBracket h tag s ht⟩

namespace Record

variable {r : Record} (h : r.Valid) {f : Field} {tag s : String}
  (ht : (r.titles.translations f).get? tag = some s)

include h ht

/-- In the flat form a translation is found under the key of its title with the tag, which stands for
it. -/
theorem Valid.get?_toProperties_withLocale :
    Vocabulary.canonical.slot (withLocale f.key tag) = .translation f tag ∧
      r.toProperties.get? (withLocale f.key tag) = some (.text s) := by
  obtain ⟨htitle, text, hnormal, htext⟩ := h.normal.exists_text ht
  have hslot := hnormal.slot_withLocale Vocabulary.reads_canonical htitle rfl
    (by cases f <;> decide) htext
  have hproperty : r.property? (.translation f tag) = some (.text s) := by
    cases f with
    | name | comment => exact congrArg (Option.map Value.text) ht
    | _ => cases ht
  exact ⟨hslot, by rw [h.get?_toProperties, hslot, hproperty, Option.some_or]⟩

/-- In the object `Plugin` a translation is found under the name of its title with the tag, which stands
for it. -/
theorem Valid.get?_toNamespace_withLocale :
    ∃ base, Vocabulary.structured.name? f = some base ∧ base ≠ "" ∧
      Vocabulary.structured.slot (withLocale base tag) = .translation f tag ∧
      r.toNamespace.get? (withLocale base tag) = some (.string s) := by
  obtain ⟨htitle, text, hnormal, htext⟩ := h.normal.exists_text ht
  obtain ⟨base, hname, hbase⟩ : ∃ base, Vocabulary.structured.name? f = some base ∧ base ≠ "" := by
    cases f with
    | name => exact ⟨"Name", rfl, by decide⟩
    | comment => exact ⟨"Description", rfl, by decide⟩
    | _ => cases ht
  have hslot := hnormal.slot_withLocale Vocabulary.reads_structured htitle hname hbase htext
  have hmember : r.member? (.translation f tag) = some (.string s) := by
    cases f with
    | name | comment => exact congrArg (Option.map Json.string) ht
    | _ => cases ht
  have hauthors : withLocale base tag ≠ Metadata.Declaration.authorsName := by
    have hcustom : Vocabulary.structured.slot Metadata.Declaration.authorsName = .custom := by decide
    intro heq
    rw [heq, hcustom] at hslot
    cases hslot
  exact ⟨base, hname, hbase, hslot, by rw [r.get?_toNamespace h.normal, if_neg hauthors, hslot, hmember]⟩

omit h ht

/-- A name is split at its locale exactly if it is put together from a base and a tag, and stays whole
otherwise. So whatever the tag is to which a record keeps a translation, with or without custom
properties, a name with this tag is split into what it was put together from; both written forms hold
the translation under such a name, which stands for it when it is read. -/
theorem splitLocale_laws :
    (∀ name base tag, splitLocale name = (base, some tag) ↔ Metadata.IsLocated name base tag) ∧
      (∀ name, (∀ base tag, ¬Metadata.IsLocated name base tag) → splitLocale name = (name, none)) ∧
      ∀ (locale libraryPath entryPath : String) (source : Source) (r₀ : Record)
        (steps : List (String × Value)),
        normalize locale source libraryPath entryPath = .ok (some r₀) →
        let r := r₀.withProperties steps
        ∀ f tag s, (r.titles.translations f).get? tag = some s →
          (∀ base, base ≠ "" → splitLocale (withLocale base tag) = (base, some tag)) ∧
          (Vocabulary.canonical.slot (withLocale f.key tag) = .translation f tag ∧
            r.toProperties.get? (withLocale f.key tag) = some (.text s)) ∧
          ∃ base, Vocabulary.structured.name? f = some base ∧ base ≠ "" ∧
            Vocabulary.structured.slot (withLocale base tag) = .translation f tag ∧
            r.toNamespace.get? (withLocale base tag) = some (.string s) := by
  refine ⟨fun _ _ _ => Metadata.splitLocale_eq_iff_isLocated,
    fun _ => Metadata.splitLocale_eq_self_iff.2, ?_⟩
  intro locale libraryPath entryPath source r₀ steps h₀ r f tag s ht
  have h : r.Valid := (valid_of_normalize h₀).withProperties steps
  obtain ⟨-, text, hnormal, htext⟩ := h.normal.exists_text ht
  exact ⟨fun base hbase => Metadata.splitLocale_eq_iff_isLocated.2 (hnormal.isLocated htext hbase),
    h.get?_toProperties_withLocale ht, h.get?_toNamespace_withLocale ht⟩

/-- Metadata with a translation to a tag that has a closing bracket and a letter of two bytes. -/
def sourceWithBracket : Source :=
  .structured (.ofList [("Plugin", .object [("Id", .string "spy"), ("EnabledByDefault", .bool true),
    ("Name", .string "Spy"), ("Name[ü]x]", .string "Spion")])])

/-- The tag goes from the last opening bracket to the end, and is found again in both written forms. -/
theorem splitLocale_laws_bracket :
    ∃ r, normalize "" sourceWithBracket "" "" = .ok (some r) ∧
      (r.titles.translations .name).get? "ü]x" = some "Spion" ∧
      splitLocale "Name[ü]x]" = ("Name", some "ü]x") ∧
      r.toProperties.get? "Name[ü]x]" = some (.text "Spion") ∧
      splitLocale "Name]" = ("Name]", none) := by
  obtain ⟨-, hself, hlaws⟩ := splitLocale_laws
  have h : normalize "" sourceWithBracket "" "" = .ok (some _) := rfl
  obtain ⟨hsplit, ⟨-, hflat⟩, -⟩ := hlaws "" "" "" sourceWithBracket _ [] h .name "ü]x" "Spion" rfl
  refine ⟨_, h, rfl, hsplit "Name" (by decide), hflat, hself "Name]" fun base tag hlocated => ?_⟩
  have hbracket : '[' ∈ "Name]".toList := by
    rw [hlocated.eq_append]
    simp
  exact absurd hbracket (by decide)

end Record

end PluginCatalog
