import PluginCatalog.Proofs.Record.FlatForm

/-!
# What custom properties displace in the flat form

The flat form of a record always gives a record again. A field that the record declares comes back as
it was; one that it does not declare is what a custom property under its key makes of it
(`Record.Valid.exists_normalize_toProperties`). So the fields come back exactly if no custom property
displaces one of them, and a title comes back if the record keeps it (`Record.toProperties_readable_iff`).
-/

namespace PluginCatalog

open Metadata (Declaration Field Source Vocabulary)

/-- What an accessor reads of a field of a kind that is not declared. -/
def Metadata.Field.Kind.default : Field.Kind → Value
  | .title | .text => .text ""
  | .flag => .bool false
  | .list => .list []

namespace Record

/-- The accessor of a field reads its value, or the default if it is not declared. -/
theorem Valid.fieldValue_eq {r : Record} (h : r.Valid) (f : Field) :
    r.fieldValue f = (r.fields.entries.get? f.key).getD f.kind.default := by
  unfold fieldValue fieldText fieldFlag fieldList
  rw [Bag.lookup, Properties.lookup]
  cases hv : r.fields.entries.get? f.key with
  | none => cases f.kind <;> rfl
  | some v =>
    have hholds := Field.holds_of_coerce?_self (h.areFields.of_key hv).2
    cases hk : f.kind <;> rw [hk] at hholds <;> obtain ⟨x, rfl⟩ := hholds <;> rfl

/-- A custom property takes the place of a field that a record does not declare: brought to the kind of
the field, it is not what the accessor reads. -/
def Displaced (r : Record) (f : Field) : Prop :=
  r.fields.contains f.key = false ∧
    ∃ v, (r.customProperties.get? f.key).bind f.coerce? = some v ∧ v ≠ f.kind.default

/-- The flat form gives a record with the fields that are declared and, of those that are not, what
custom properties under their keys are. -/
theorem Valid.exists_normalize_toProperties {r : Record} (h : r.Valid) (active : String) :
    ∃ s, normalize active (.flat r.toProperties) r.libraryPath "" = .ok (some s) ∧
      (∀ f : Field, f.isTitle = false → f ≠ .library →
        s.fields.entries.get? f.key = (r.fields.entries.get? f.key).or
          ((r.customProperties.get? f.key).bind f.coerce?)) ∧
      s.titles = .frozen
        ((Declaration.ofProperties .canonical r.toProperties).name.resolve active)
        ((Declaration.ofProperties .canonical r.toProperties).comment.resolve active) := by
  have hget (f : Field) (hf : f.isTitle = false) (hlibrary : f ≠ .library) :
      (Declaration.ofSource (.flat r.toProperties)).fields.get? f.key
        = (r.fields.entries.get? f.key).or ((r.customProperties.get? f.key).bind f.coerce?) := by
    have hdeclared := h.get?_fieldsOf_toProperties_eq_or hf
    rw [if_neg hlibrary, Option.or_none] at hdeclared
    exact hdeclared
  have hnormalize := h.normalize_of_declared h.isEmpty_toProperties (fun f v hf hv => ?_) active
    r.libraryPath ""
  · refine ⟨_, hnormalize, fun f hf hlibrary => ?_, rfl⟩
    rw [Declaration.get?_fields_record _ _ _ _ _ (Declaration.areFields_ofSource _) hf,
      hget f hf hlibrary]
    split
    · -- The identifier is always declared, so no custom property displaces it.
      rename_i hid
      rw [hid, h.get?_id, Option.some_or]
    · rfl
  · have hother : f.isTitle = false ∧ f ≠ .library := by
      rcases hf with rfl | rfl | rfl <;> decide
    rw [hget f hother.1 hother.2, hv, Option.some_or]

/-- The accessor of a field comes back exactly if the field is not displaced. -/
theorem Valid.fieldValue_eq_iff {r s : Record} (hr : r.Valid) (hs : s.Valid) {f : Field}
    (hget : s.fields.entries.get? f.key = (r.fields.entries.get? f.key).or
      ((r.customProperties.get? f.key).bind f.coerce?)) :
    s.fieldValue f = r.fieldValue f ↔ ¬r.Displaced f := by
  rw [hr.fieldValue_eq, hs.fieldValue_eq, hget, Displaced, Bag.contains, Dict.contains]
  cases r.fields.entries.get? f.key with
  | some v => simp
  | none => cases (r.customProperties.get? f.key).bind f.coerce? <;> simp

/-- The flat form of a record, whatever its origin and with whatever custom properties, gives a record in
every locale. A field that is declared comes back as it was, and one that is not is what a custom
property under its key makes of it; so all fields come back exactly if none is displaced. A title that
is kept is fixed as it is in the locale. -/
theorem toProperties_readable_iff {locale libraryPath entryPath : String} {source : Source}
    {r₀ : Record} (h : normalize locale source libraryPath entryPath = .ok (some r₀))
    (steps : List (String × Value)) (active : String) :
    let r := r₀.withProperties steps
    ∃ s, normalize active (.flat r.toProperties) r.libraryPath "" = .ok (some s) ∧ s.id = r.id ∧
      (∀ f : Field, f.isTitle = false → f ≠ .library →
        s.fieldValue f
          = if r.fields.contains f.key then r.fieldValue f
            else ((r.customProperties.get? f.key).bind f.coerce?).getD f.kind.default) ∧
      (r.SameFields s ↔ ∀ f : Field, f.isTitle = false → f ≠ .library → ¬r.Displaced f) ∧
      (r.KeepsTitle .name r.titles.name → ∀ later, s.name later = r.name active) ∧
      (r.KeepsTitle .comment r.titles.comment → ∀ later, s.comment later = r.comment active) := by
  intro r
  have hr : r.Valid := (valid_of_normalize h).withProperties steps
  have hcoherent : r.Coherent := (coherent_of_normalize h).withProperties steps
  obtain ⟨s, hnormalize, hget, htitles⟩ := hr.exists_normalize_toProperties active
  have hs := valid_of_normalize hnormalize
  -- The key of a declared field is taken, so a custom property gets through only under a free one.
  have hvalue (f : Field) (hf : f.isTitle = false) (hlibrary : f ≠ .library) :
      s.fieldValue f
        = if r.fields.contains f.key then r.fieldValue f
          else ((r.customProperties.get? f.key).bind f.coerce?).getD f.kind.default := by
    rw [hs.fieldValue_eq, hr.fieldValue_eq, hget f hf hlibrary, Bag.contains, Dict.contains]
    cases r.fields.entries.get? f.key <;> rfl
  refine ⟨s, hnormalize, ?_, hvalue, ?_, fun hkeeps later => ?_, fun hkeeps later => ?_⟩
  · -- The identifier is declared by every record.
    have hid := hvalue .id rfl (by decide)
    have hdeclared : r.fields.contains Field.id.key = true :=
      Dict.contains_eq_true_iff.2 ⟨_, hr.get?_id⟩
    rw [if_pos hdeclared] at hid
    exact Value.text.inj hid
  · rw [sameFields_iff]
    exact forall₃_congr fun f hf hlibrary => hr.fieldValue_eq_iff hs (hget f hf hlibrary)
  · rw [Record.name, htitles, hr.name_toProperties hcoherent hkeeps, Record.name,
      ← DisplayText.resolve_asTable r.titles.name]
    rfl
  · rw [Record.comment, htitles, hr.comment_toProperties hcoherent hkeeps, Record.comment,
      ← DisplayText.resolve_asTable r.titles.comment]
    rfl

/-- Structured metadata without a license and a name, with a property beside the object `Plugin`. -/
def untitledSource (key : String) : Source :=
  .structured (.ofList [("Plugin", .object [("Id", .string "spy"), ("EnabledByDefault", .bool true)]),
    (key, .string "x")])

/-- Flat metadata with a name. -/
def titledSource : Source :=
  .flat (.ofList [("X-Plugin-Id", .text "spy"), ("X-Plugin-EnabledByDefault", .bool true),
    ("Name", .text "Spy")])

/-- A property beside the fields leaves them alone, one that is called like a license becomes the
license. -/
theorem toProperties_readable_iff_license :
    (∃ r s, normalize "" (untitledSource "Origin") "" "" = .ok (some r) ∧
      normalize "de" (.flat r.toProperties) r.libraryPath "" = .ok (some s) ∧ r.SameFields s) ∧
    ∃ r s, normalize "" (untitledSource "X-Plugin-License") "" "" = .ok (some r) ∧
      normalize "de" (.flat r.toProperties) r.libraryPath "" = .ok (some s) ∧ ¬r.SameFields s := by
  constructor
  · have h : normalize "" (untitledSource "Origin") "" "" = .ok (some _) := rfl
    obtain ⟨s, hs, -, -, hsame, -⟩ := toProperties_readable_iff h [] "de"
    refine ⟨_, s, h, hs, hsame.2 fun f _ _ hdisplaced => ?_⟩
    obtain ⟨-, v, hv, -⟩ := hdisplaced
    cases f <;> cases hv
  · have h : normalize "" (untitledSource "X-Plugin-License") "" "" = .ok (some _) := rfl
    obtain ⟨s, hs, -, -, hsame, -⟩ := toProperties_readable_iff h [] "de"
    exact ⟨_, s, h, hs, fun hfields =>
      hsame.1 hfields .license rfl (by decide) ⟨rfl, .text "x", rfl, by decide⟩⟩

/-- Custom properties take over a title: one that is called like the name of a record without a name,
and one that is called like the translation of a name that is fixed. -/
theorem toProperties_displaced :
    (∃ r s, normalize "de" (untitledSource "Name") "" "" = .ok (some r) ∧ r.name "de" = "" ∧
      normalize "de" (.flat r.toProperties) r.libraryPath "" = .ok (some s) ∧ s.name "de" = "x") ∧
    ∃ r s, normalize "de" titledSource "" "" = .ok (some r) ∧
      (r.withProperty "Name[de]" (.text "Spion")).name "de" = "Spy" ∧
      normalize "de" (.flat (r.withProperty "Name[de]" (.text "Spion")).toProperties) r.libraryPath ""
        = .ok (some s) ∧ s.name "de" = "Spion" :=
  ⟨⟨_, _, rfl, rfl, rfl, rfl⟩, _, _, rfl, rfl, rfl, rfl⟩

end Record

end PluginCatalog
