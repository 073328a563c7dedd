import PluginCatalog.Proofs.Record.CustomProperties
import PluginCatalog.Proofs.Record.Displacement
import PluginCatalog.Proofs.Record.Lossless
import PluginCatalog.Proofs.Record.Readings

/-!
# Accessors and properties

What the accessor of a field reads (`Record.accessor`) and what constraints find under the key of the field
come from different places: the one from the fields and the titles, the other from all properties. They agree
as long as no custom property hides the field (`Record.property_eq_accessor`). A custom property that a
source gives is always there, so one that hides a field is seen among the custom properties, and where none
is seen the properties hold what the fields do (`Record.lookup_properties_of_contains`).
-/

namespace PluginCatalog

open Metadata (Declaration Field Source)

/-- No source gives an absent custom property under the key of a field. -/
theorem Metadata.Declaration.get?_custom_key_ne_absent (source : Source) (f : Field) :
    (ofSource source).custom.get? f.key ≠ some .absent := by
  cases source with
  | structured root => exact (storable_custom_ofStructured root).present f.key
  | legacy root =>
    intro h
    rw [ofSource, get?_custom] at h
    split at h
    · exact (storable_convert root).present f.key h
    · cases h
  | flat p =>
    rw [ofSource, get?_custom_key]
    nofun

namespace Record

/-- What the accessor of a field reads in some surroundings. -/
def accessor (r : Record) (env : Environment) : Field → Value
  | .name => .text (r.read env).name
  | .comment => .text (r.read env).comment
  | .icon => .text r.icon
  | .hidden => .bool r.isHidden
  | .id => .text r.id
  | .author => .text r.author
  | .email => .text r.email
  | .category => .text r.category
  | .depends => .list r.dependencies
  | .enabledByDefault => .bool r.isEnabledByDefault
  | .license => .text r.license
  | .version => .text r.version
  | .website => .text r.website
  | .serviceTypes => .list r.serviceTypes
  | .library => .text r.libraryPath

variable {r : Record} (env : Environment)

/-- The accessor of a field that is no title reads it among the fields. -/
theorem accessor_eq_fieldValue {f : Field} (hf : f.isTitle = false) (hlibrary : f ≠ .library) :
    r.accessor env f = r.fieldValue f := by
  cases f with
  | name | comment => cases hf
  | library => exact absurd rfl hlibrary
  | _ => rfl

/-- The text that the accessor of a title reads is what stands in for the title. -/
theorem exists_accessor_title {f : Field} (hf : f.isTitle = true) :
    ∃ text, r.accessor env f = .text text ∧ r.standIn env.locale f.key = presentText text := by
  cases f with
  | name =>
    refine ⟨_, rfl, ?_⟩
    rw [standIn_name, read, DisplayText.current_eq_resolve]
    rfl
  | comment =>
    refine ⟨_, rfl, ?_⟩
    rw [standIn_comment, read, DisplayText.current_eq_resolve]
    rfl
  | _ => cases hf

/-- Where a record of a source shows no custom property under the key of a field, its properties hold what
the fields do. -/
theorem lookup_properties_of_contains {locale libraryPath entryPath : String} {source : Source}
    (h : normalize locale source libraryPath entryPath = .ok (some r)) {f : Field}
    (hcustom : r.customProperties.contains f.key = false) :
    r.properties.lookup f.key = r.fields.lookup f.key := by
  have hpresent := Declaration.get?_custom_key_ne_absent source f
  have hnone := Dict.contains_eq_false_iff.1 hcustom
  rw [get?_customProperties] at hnone
  obtain ⟨id, rfl⟩ := exists_record_of_normalize h
  generalize Declaration.ofSource source = d at *
  cases hdeclared : d.custom.get? f.key with
  | none =>
    simp only [Declaration.record, Bag.lookup_ofProperties, Properties.lookup, Dict.get?_overlay,
      hdeclared, Option.none_or]
  | some v =>
    -- The property is there, so it can only be missing because it is the value of the field.
    have hv : (d.record id (effectivePath d libraryPath) entryPath
        (d.titles locale source.policy)).properties.lookup f.key = v := by
      simp only [Declaration.record, Bag.lookup_ofProperties, Properties.lookup, Dict.get?_overlay,
        hdeclared, Option.some_or, Option.getD_some]
    have hthere : v.isAbsent = false := by
      cases v with
      | absent => exact absurd hdeclared hpresent
      | _ => rfl
    rw [hv] at hnone ⊢
    simp only [hthere, Bool.false_eq_true, false_or] at hnone
    by_contra hdiffer
    rw [if_neg fun hfield => hdiffer hfield.symm] at hnone
    cases hnone

/-- The accessor of a field and the property under its key agree in a record of any source, read in any
surroundings, unless the record has a custom property there; custom properties that are added under other keys
do not matter. The property is what the accessor reads, or there is none and the accessor reads nothing. The
property of a title is missing exactly if its text is empty. -/
theorem property_eq_accessor {locale libraryPath entryPath : String} {source : Source} {r₀ : Record}
    (h : normalize locale source libraryPath entryPath = .ok (some r₀)) {f : Field}
    (hlibrary : f ≠ .library) (hcustom : r₀.customProperties.contains f.key = false)
    {steps : List (String × Value)} (hsteps : ∀ e ∈ steps, e.1 ≠ f.key) (env : Environment) :
    let r := r₀.withProperties steps
    let property := (r.read env).property f.key
    (property = r.accessor env f ∨ property = .absent ∧ r.accessor env f = f.kind.default) ∧
      (f.isTitle = true → (property = .absent ↔ r.accessor env f = .text "")) := by
  intro r property
  have hvalid : r.Valid := (valid_of_normalize h).withProperties steps
  have hcoherent : r.Coherent := (coherent_of_normalize h).withProperties steps
  -- Nothing hides the field: the record had no property under its key, and the steps add none.
  have hshown : r.properties.lookup f.key = r.fields.lookup f.key := by
    calc r.properties.lookup f.key
        = r₀.properties.lookup f.key := r₀.lookup_properties_withProperties f.key hsteps
      _ = r₀.fields.lookup f.key := lookup_properties_of_contains h hcustom
      _ = r.fields.lookup f.key := by rw [r₀.fields_withProperties steps]
  cases hf : f.isTitle with
  | true =>
    obtain ⟨text, haccessor, hstandIn⟩ := exists_accessor_title (r := r) env hf
    -- A translated title is no field; its text stands in for it, unless it is empty.
    have hproperty : property = presentText text :=
      (hcoherent.lookup_title hf hshown env.locale).trans hstandIn
    have hdefault : f.kind.default = .text "" := by
      cases f with
      | name | comment => rfl
      | _ => cases hf
    rw [hproperty, haccessor, hdefault, presentText]
    by_cases htext : text = ""
    · subst htext
      simp
    · simp [htext]
  | false =>
    refine ⟨?_, nofun⟩
    have hproperty : property = r.fields.lookup f.key := (lookup_key hf env.locale).trans hshown
    rw [hproperty, accessor_eq_fieldValue env hf hlibrary, hvalid.fieldValue_eq, Bag.lookup,
      Properties.lookup]
    cases r.fields.entries.get? f.key with
    | none => exact .inr ⟨rfl, rfl⟩
    | some v => exact .inl rfl

/-- A plugin that was found in German has its German name as a property when it is read elsewhere, and no
description and no license, also with one more custom property. -/
theorem property_eq_accessor_german :
    let env := Environment.bare.chooseLocale "fr"
    ∃ r, normalize "de" translatedProperties "" "" = .ok (some r) ∧
      ((r.withProperty "Weight" (.number .zero)).read env).property "Name" = .text "Spion" ∧
      ((r.withProperty "Weight" (.number .zero)).read env).property "Comment" = .absent ∧
      ((r.withProperty "Weight" (.number .zero)).read env).property "X-Plugin-EnabledByDefault"
        = .bool true := by
  intro env
  have h : normalize "de" translatedProperties "" "" = .ok (some _) := rfl
  have hsteps (f : Field) : ∀ e ∈ [("Weight", Value.number .zero)], e.1 ≠ f.key := by
    intro e he
    obtain rfl := List.mem_singleton.1 he
    cases f <;> decide
  obtain ⟨hname, hempty⟩ :=
    property_eq_accessor h (f := .name) (by decide) (by decide) (hsteps .name) env
  obtain ⟨-, hcomment⟩ :=
    property_eq_accessor h (f := .comment) (by decide) (by decide) (hsteps .comment) env
  obtain ⟨henabled, -⟩ := property_eq_accessor h (f := .enabledByDefault) (by decide) (by decide)
    (hsteps .enabledByDefault) env
  refine ⟨_, h, hname.resolve_right fun hnone => ?_, (hcomment rfl).2 rfl,
    henabled.resolve_right fun hnone => ?_⟩
  · exact absurd hnone.2 (by decide)
  · exact absurd hnone.2 (by decide)

end Record

end PluginCatalog
