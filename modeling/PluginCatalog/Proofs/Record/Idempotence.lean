import PluginCatalog.Proofs.Record.FlatForm

/-!
# The flat form of flat metadata

A record of flat metadata is read again from its flat form as it was, whatever the locale: its titles are
fixed, its fields are of their kinds, and a name that stands for nothing does so again. Only the path of
the library, if it was given beside the metadata, becomes one of the fields (`Record.Located`), and the
flat form holds it anyway. So the flat form of what is read again is the same
(`Record.normalize_toProperties_flat`).
-/

namespace PluginCatalog

open Metadata (Declaration Field Slot Source Vocabulary)

namespace Record

/-! ## Records with their library among the fields -/

/-- The second record is the first one with the path of its library among the fields, where the first one
declares no library. -/
structure Located (r s : Record) : Prop where
  titles : s.titles = r.titles
  libraryPath : s.libraryPath = r.libraryPath
  customProperties : s.customProperties = r.customProperties
  fields : ∀ key, s.fields.entries.get? key
    = (r.fields.entries.get? key).or (if key = Field.library.key then r.libraryProperty? else none)

namespace Located

variable {r s : Record} (h : r.Located s)

include h

/-- The other fields stay as they are. -/
theorem get?_fields {f : Field} (hf : f ≠ .library) :
    s.fields.entries.get? f.key = r.fields.entries.get? f.key := by
  rw [h.fields, if_neg fun hkey => hf (Field.key_injective hkey), Option.or_none]

/-- The accessors read the same. -/
theorem sameFields : r.SameFields s := by
  refine sameFields_iff.2 fun f _ hlibrary => fieldValue_congr ?_
  rw [Bag.lookup, Properties.lookup, h.get?_fields hlibrary]
  rfl

/-- The flat form holds the same for what a name stands for. -/
theorem property?_eq (slot : Slot) : s.property? slot = r.property? slot := by
  have hlibrary : s.libraryProperty? = r.libraryProperty? := by
    rw [libraryProperty?, libraryProperty?, h.libraryPath]
  cases slot with
  | custom => rfl
  | translation f tag => cases f <;> simp only [property?, h.titles]
  | field f =>
    by_cases hf : f = .library
    · subst hf
      rw [property?, property?, h.fields, if_pos rfl, hlibrary, Option.or_assoc, Option.or_self]
    · have hfield := h.get?_fields hf
      cases f <;> first | exact absurd rfl hf | simp only [property?, hfield, h.titles]

/-- The flat form is the same. -/
theorem toProperties_eq (hr : r.Valid) (hs : s.Valid) : s.toProperties = r.toProperties := by
  refine Dict.ext_get? fun key => ?_
  rw [hr.get?_toProperties, hs.get?_toProperties, h.property?_eq, h.customProperties]

/-- If the properties of both are the custom ones over the fields, they differ at most in the library. -/
theorem properties_eq (hr : r.properties.entries = r.fields.entries.overlay r.customProperties)
    (hs : s.properties.entries = s.fields.entries.overlay s.customProperties) :
    s.properties = r.properties ∨ r.properties.contains Field.library.key = false ∧
      s.properties.entries
        = r.properties.entries.insert Field.library.key (.text r.libraryPath) := by
  have hget (key : String) : s.properties.entries.get? key = (r.properties.entries.get? key).or
      (if key = Field.library.key then r.libraryProperty? else none) := by
    rw [hr, hs, h.customProperties, Dict.get?_overlay, Dict.get?_overlay, h.fields, Option.or_assoc]
  cases hunknown : r.libraryProperty? with
  | none =>
    refine .inl (Bag.ext_entries (Dict.ext_get? fun key => ?_))
    rw [hget, hunknown, ite_self, Option.or_none]
  | some v =>
    -- The path of the library is read back as a field, which is new unless the record had one.
    have hv : v = .text r.libraryPath := by
      rw [libraryProperty?] at hunknown
      split at hunknown <;> cases hunknown
      rfl
    subst hv
    cases hdeclared : r.properties.contains Field.library.key with
    | true =>
      obtain ⟨w, hw⟩ := Dict.contains_eq_true_iff.1 hdeclared
      refine .inl (Bag.ext_entries (Dict.ext_get? fun key => ?_))
      rw [hget]
      split
      · rename_i hkey
        rw [hkey, hw, Option.some_or]
      · rw [Option.or_none]
    | false =>
      refine .inr ⟨rfl, Dict.ext_get? fun key => ?_⟩
      rw [hget, Dict.get?_insert]
      split
      · rename_i hkey
        rw [hkey, Dict.contains_eq_false_iff.1 hdeclared, Option.none_or, hunknown]
      · rw [Option.or_none]

end Located

/-! ## Records of flat metadata -/

section

variable {locale libraryPath entryPath : String} {p : Properties} {r : Record}
  (hr : normalize locale (.flat p) libraryPath entryPath = .ok (some r))

include hr

/-- A record of flat metadata is that of its declaration, with the titles of the locale. -/
theorem exists_record_of_normalize_flat : ∃ id path titles,
    r = (Declaration.ofProperties .canonical p).record id path entryPath titles ∧
      titles.policy = .eager := by
  obtain ⟨id, hrecord⟩ := exists_record_of_normalize hr
  exact ⟨id, _, _, hrecord, rfl⟩

/-- A custom property of a record of flat metadata has a name that stands for nothing. -/
theorem slot_of_normalize_flat (key : String) (v : Value)
    (hv : r.customProperties.get? key = some v) : Vocabulary.canonical.slot key = .custom := by
  rw [customProperties_of_normalize hr (Declaration.get?_custom_key p), Bag.get?_entries_ofProperties,
    Option.filter_eq_some_iff, Declaration.ofSource, Declaration.get?_custom] at hv
  obtain ⟨hdeclared, -⟩ := hv
  split at hdeclared
  · assumption
  · cases hdeclared

/-- The flat form of a record of flat metadata gives the record again, with its library among the
fields. -/
theorem exists_located_of_normalize_flat (active : String) :
    ∃ s, normalize active (.flat r.toProperties) r.libraryPath "" = .ok (some s) ∧ r.Located s := by
  have hvalid := valid_of_normalize hr
  have hcoherent := coherent_of_normalize hr
  have hcustom := slot_of_normalize_flat hr
  have hnormalize := hvalid.normalize_flat hcustom (fieldText_library_of_normalize hr) active
  rw [hvalid.name_toProperties hcoherent (keepsTitle_of_slot hcustom _ _),
    hvalid.comment_toProperties hcoherent (keepsTitle_of_slot hcustom _ _),
    DisplayText.resolve_asTable, DisplayText.resolve_asTable] at hnormalize
  have hfrozen : Titles.frozen (r.titles.name.resolve active) (r.titles.comment.resolve active)
      = r.titles := by
    obtain ⟨id, path, titles, rfl, heager⟩ := exists_record_of_normalize_flat hr
    cases titles with
    | frozen name comment => rfl
    | translatable name comment => cases heager
  -- The titles are fixed already, so the locale in which they are read again does not matter.
  rw [hfrozen] at hnormalize
  refine ⟨_, hnormalize, rfl, rfl, hvalid.customProperties_record_toProperties hcustom _,
    fun key => ?_⟩
  by_cases hkey : ∃ f : Field, key = f.key
  · obtain ⟨f, rfl⟩ := hkey
    cases hf : f.isTitle with
    | true =>
      -- The flat form declares no title among the fields, but the titles determine what is there.
      have hlibrary : f.key ≠ Field.library.key := by
        intro h
        rw [Field.key_injective h] at hf
        cases hf
      rw [hcoherent.get?_title_congr (coherent_of_normalize hnormalize) rfl hf, if_neg hlibrary,
        Option.or_none]
    | false =>
      rw [hvalid.get?_fields_record_toProperties hcustom r.titles hf]
      simp only [show f.key = Field.library.key ↔ f = .library from
        ⟨Field.key_injective, congrArg Field.key⟩]
  · have hnone (f : Field) : key ≠ f.key := fun h => hkey ⟨f, h⟩
    rw [hvalid.areFields.get?_eq_none hnone, if_neg (hnone .library), Option.or_none,
      (valid_of_normalize hnormalize).areFields.get?_eq_none hnone]

/-- A record of flat metadata is read again from its flat form, in whatever locale, as it was: with the
same fields, library, custom properties and titles, and the same flat form. Its properties differ at most
in that the path of the library is among them. -/
theorem normalize_toProperties_flat (active : String) :
    ∃ s, normalize active (.flat r.toProperties) r.libraryPath "" = .ok (some s) ∧
      s.toProperties = r.toProperties ∧ r.SameFields s ∧ s.libraryPath = r.libraryPath ∧
      s.policy = r.policy ∧ s.customProperties = r.customProperties ∧
      (∀ later, s.name later = r.name later ∧ s.comment later = r.comment later) ∧
      (s.properties = r.properties ∨ r.properties.contains Field.library.key = false ∧
        s.properties.entries
          = r.properties.entries.insert Field.library.key (.text r.libraryPath)) := by
  obtain ⟨s, hs, h⟩ := exists_located_of_normalize_flat hr active
  have htoProperties := h.toProperties_eq (valid_of_normalize hr) (valid_of_normalize hs)
  refine ⟨s, hs, htoProperties, h.sameFields, h.libraryPath, ?_, h.customProperties, fun later => ?_,
    h.properties_eq (properties_of_normalize hr (Declaration.get?_custom_key _))
      (properties_of_normalize hs (Declaration.get?_custom_key _))⟩
  · rw [Record.policy, Record.policy, h.titles]
  · rw [Record.name, Record.name, Record.comment, Record.comment, h.titles]
    exact ⟨rfl, rfl⟩

end

/-- Flat metadata with a translated name, a name that only looks like a translation, an absent property
and one that is `nan`. -/
def oddProperties : Properties :=
  .ofList [("X-Plugin-EnabledByDefault", .text "TRUE"), ("Name", .text "Spy"),
    ("Name[de]", .text "Spion"), ("Name[]", .text "odd"), ("Gone", .absent), ("Size", .number .nan)]

/-- A plugin whose identifier comes from its library is read again in another language, with the library
among its properties. -/
theorem normalize_toProperties_flat_odd :
    ∃ r s, normalize "de" (.flat oddProperties) "/p/spy.so" "" = .ok (some r) ∧
      normalize "C" (.flat r.toProperties) "/p/spy.so" "" = .ok (some s) ∧
      s.toProperties = r.toProperties ∧ s.name "C" = "Spion" ∧
      s.customProperties = .ofList [("Name[]", .text "odd"), ("Size", .number .nan)] := by
  have h : normalize "de" (.flat oddProperties) "/p/spy.so" "" = .ok (some _) := rfl
  obtain ⟨s, hs, hproperties, -, -, -, hcustom, hnames, -⟩ := normalize_toProperties_flat h "C"
  exact ⟨_, s, h, hs, hproperties, (hnames "C").1, hcustom⟩

end Record

end PluginCatalog
