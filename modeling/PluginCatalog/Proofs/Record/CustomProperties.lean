import PluginCatalog.Proofs.Record.Coherence
import PluginCatalog.Proofs.Record.Frame

/-!
# Custom properties of a record

A record with one more custom property differs from the first one in what is found under the key of the
property, and in that it is no longer the record of a file (`Record.withProperty_effect`). An absent value
deletes the property, so that at most the text of a title stands in for it, and the value of a field under
its own key is no custom property. Of several properties the last one under each key counts: an earlier one
leaves no trace (`Record.withProperties_override`), and properties under other keys may be added before or
after (`Record.withProperties_comm`).
-/

namespace PluginCatalog

open Metadata (Field Source)

/-- Bags with the same lookups are the same. -/
theorem Bag.ext_lookup {b c : Bag} (h : ∀ key, b.lookup key = c.lookup key) : b = c :=
  Bag.ext_entries (Dict.ext_get? fun key => by rw [get?_entries, get?_entries, h])

namespace Record

/-! ## One property -/

variable (r : Record) (key : String) (value : Value)

/-- A custom property is found, or else what stands in for it. -/
theorem lookup_withProperty_self (locale : String) :
    (r.withProperty key value).lookup locale key
      = if value.isAbsent then r.standIn locale key else value := by
  rw [lookup_eq_standIn, lookup_properties_withProperty, if_pos rfl]
  rfl

/-- A custom property is one that is there and that is not the field under its key. -/
theorem get?_customProperties :
    r.customProperties.get? key
      = if (r.properties.lookup key).isAbsent ∨ r.fields.lookup key = r.properties.lookup key then none
        else some (r.properties.lookup key) := by
  rw [customProperties, Dict.get?_filter, Bag.get?_entries]
  by_cases habsent : (r.properties.lookup key).isAbsent = true
  · rw [if_pos habsent, if_pos (.inl habsent), Option.filter_none]
  · by_cases hfield : r.fields.lookup key = r.properties.lookup key
    · rw [if_neg habsent, if_pos (.inr hfield)]
      simp [Option.filter, hfield]
    · rw [if_neg habsent, if_neg fun h => h.elim habsent hfield]
      simp [Option.filter, hfield]

/-- One more custom property takes the place of the one under its key, unless it is absent or the value of
the field. -/
theorem customProperties_withProperty :
    (r.withProperty key value).customProperties
      = if value.isAbsent ∨ r.fields.lookup key = value then r.customProperties.erase key
        else (r.customProperties.erase key).insert key value := by
  refine Dict.ext_get? fun other => ?_
  rw [get?_customProperties, lookup_properties_withProperty, fields_withProperty]
  by_cases hother : other = key
  · subst hother
    rw [if_pos rfl]
    split
    · rw [Dict.get?_erase, if_pos rfl]
    · rw [Dict.get?_insert, if_pos rfl]
  · rw [if_neg hother, ← get?_customProperties]
    split
    · rw [Dict.get?_erase, if_neg hother]
    · rw [Dict.get?_insert, if_neg hother, Dict.get?_erase, if_neg hother]

/-- No field is a number. -/
theorem Coherent.lookup_fields_ne_number {r : Record} (h : r.Coherent) (key : String) (x : Binary64) :
    r.fields.lookup key ≠ .number x := by
  intro hfield
  have hget : r.fields.entries.get? key = some (.number x) := by
    rw [Bag.get?_entries, hfield]
    rfl
  obtain ⟨f, -, hkind⟩ := h.fields key _ hget
  cases hk : f.kind <;> rw [hk] at hkind <;> obtain ⟨y, hy⟩ := hkind <;> cases hy

/-- So a value is the one of a field if it is the same by value. -/
theorem Coherent.same_field_iff {r : Record} (h : r.Coherent) (key : String) (value : Value) :
    (r.fields.lookup key).same value = true ↔ r.fields.lookup key = value := by
  cases hfield : r.fields.lookup key with
  | number x => exact absurd hfield (h.lookup_fields_ne_number key x)
  | _ => simp [Value.same]

/-! ## Several properties -/

/-- A custom property replaces an earlier one under its key. -/
theorem withProperty_withProperty (later : Value) :
    (r.withProperty key value).withProperty key later = r.withProperty key later := by
  have hproperties : ((r.withProperty key value).withProperty key later).properties
      = (r.withProperty key later).properties := by
    refine Bag.ext_lookup fun other => ?_
    rw [lookup_properties_withProperty, lookup_properties_withProperty, lookup_properties_withProperty]
    split <;> rfl
  exact eq_of_entries rfl rfl (congrArg Bag.entries hproperties) rfl rfl

/-- Custom properties under different keys may be added in either order. -/
theorem withProperty_comm {other : String} (h : other ≠ key) (otherValue : Value) :
    (r.withProperty key value).withProperty other otherValue
      = (r.withProperty other otherValue).withProperty key value := by
  have hproperties : ((r.withProperty key value).withProperty other otherValue).properties
      = ((r.withProperty other otherValue).withProperty key value).properties := by
    refine Bag.ext_lookup fun k => ?_
    simp only [lookup_properties_withProperty]
    by_cases hk : k = key
    · rw [if_pos hk, if_pos hk, if_neg fun hk' => h (hk'.symm.trans hk)]
    · rw [if_neg hk, if_neg hk]
  exact eq_of_entries rfl rfl (congrArg Bag.entries hproperties) rfl rfl

/-- Custom properties leave alone what the properties hold under other keys. -/
theorem lookup_properties_withProperties {others : List (String × Value)} (h : ∀ e ∈ others, e.1 ≠ key) :
    (r.withProperties others).properties.lookup key = r.properties.lookup key := by
  induction others generalizing r with
  | nil => rfl
  | cons e others ih =>
    obtain ⟨he, hothers⟩ := List.forall_mem_cons.1 h
    calc ((r.withProperty e.1 e.2).withProperties others).properties.lookup key
        = (r.withProperty e.1 e.2).properties.lookup key := ih _ hothers
      _ = r.properties.lookup key := by
          rw [lookup_properties_withProperty, if_neg he.symm]

/-- A custom property may be added before or after others under other keys. -/
theorem withProperties_comm {others : List (String × Value)} (h : ∀ e ∈ others, e.1 ≠ key) :
    (r.withProperty key value).withProperties others
      = (r.withProperties others).withProperty key value := by
  induction others generalizing r with
  | nil => rfl
  | cons e others ih =>
    obtain ⟨he, hothers⟩ := List.forall_mem_cons.1 h
    calc ((r.withProperty key value).withProperty e.1 e.2).withProperties others
        = ((r.withProperty e.1 e.2).withProperty key value).withProperties others := by
          rw [r.withProperty_comm key value he]
      _ = ((r.withProperty e.1 e.2).withProperties others).withProperty key value := ih _ hothers

/-- A custom property leaves no trace when a later one is added under its key, whatever was added in
between. -/
theorem withProperties_override (between : List (String × Value)) (later : Value) :
    ((r.withProperty key value).withProperties between).withProperty key later
      = (r.withProperties between).withProperty key later := by
  induction between generalizing r with
  | nil => exact r.withProperty_withProperty key value later
  | cons e between ih =>
    by_cases he : e.1 = key
    · -- Another property under the key has replaced the first one already.
      have hreplaced : (r.withProperty key value).withProperty e.1 e.2 = r.withProperty e.1 e.2 := by
        rw [he, withProperty_withProperty]
      show (((r.withProperty key value).withProperty e.1 e.2).withProperties between).withProperty key
        later = _
      rw [hreplaced]
      rfl
    · calc (((r.withProperty key value).withProperty e.1 e.2).withProperties between).withProperty key
            later
          = (((r.withProperty e.1 e.2).withProperty key value).withProperties between).withProperty key
              later := by rw [r.withProperty_comm key value he]
        _ = ((r.withProperty e.1 e.2).withProperties between).withProperty key later := ih _

/-- What one more custom property does to a record, whatever its source was and whatever custom properties it
has. Only the path of its file is gone: its library, its titles with their translations and all fields stay.
Under the key the value is found, or the text of a title that stands in for an absent one, and under all other
keys what was found before. The property is added to the other custom ones unless it is absent or the value
of the field under its key. A later property under the same key replaces it completely, and it may be added
before or after properties under other keys. -/
theorem withProperty_effect {locale libraryPath entryPath : String} {source : Source} {r₀ : Record}
    (h : normalize locale source libraryPath entryPath = .ok (some r₀))
    (steps : List (String × Value)) (key : String) (value : Value) :
    let r := r₀.withProperties steps
    let s := r.withProperty key value
    let others := r.customProperties.erase key
    (s.entryPath = "" ∧ s.libraryPath = r.libraryPath ∧ s.policy = r.policy ∧ s.titles = r.titles ∧
      r.SameFields s) ∧
    (∀ active, s.lookup active key = if value.isAbsent then r.standIn active key else value) ∧
    (∀ active other, other ≠ key → s.lookup active other = r.lookup active other) ∧
    s.customProperties
      = (if value.isAbsent || (r.fields.lookup key).same value then others
        else others.insert key value) ∧
    (∀ between later, (s.withProperties between).withProperty key later
      = (r.withProperties between).withProperty key later) ∧
    ∀ different : List (String × Value), (∀ e ∈ different, e.1 ≠ key) →
      s.withProperties different = (r.withProperties different).withProperty key value := by
  intro r s others
  have hcoherent : r.Coherent := (coherent_of_normalize h).withProperties steps
  refine ⟨⟨rfl, rfl, rfl, rfl, SameFields.of_values (fun _ _ _ => rfl) fun _ _ => rfl⟩,
    r.lookup_withProperty_self key value, fun active other hother => ?_, ?_,
    r.withProperties_override key value, fun different hdifferent => ?_⟩
  · exact r.lookup_withProperty hother value active
  · simp only [Bool.or_eq_true, hcoherent.same_field_iff]
    exact r.customProperties_withProperty key value
  · exact r.withProperties_comm key value hdifferent

/-- A property with another identifier is gone when it gets that of the field, also if there are others, and
without its property the name is found as the text of the title. -/
theorem withProperty_effect_named :
    ∃ r, normalize "" namedSource "/p/spy.so" "" = .ok (some r) ∧
      (((r.withProperty Field.id.key (.text "other")).withProperty "Weight" (.number .zero)).withProperty
          Field.id.key (.text "spy")).customProperties.keys = ["Weight"] ∧
      (r.withProperty Field.name.key .absent).lookup "de" Field.name.key = .text "Spy" := by
  have h : normalize "" namedSource "/p/spy.so" "" = .ok (some _) := rfl
  obtain ⟨-, -, -, -, hoverride, -⟩ := withProperty_effect h [] Field.id.key (.text "other")
  obtain ⟨-, -, -, hcustom, -, -⟩ :=
    withProperty_effect h [("Weight", .number .zero)] Field.id.key (.text "spy")
  obtain ⟨-, hfound, -, -, -, -⟩ := withProperty_effect h [] Field.name.key .absent
  refine ⟨_, h, ?_, (hfound "de").trans (by decide)⟩
  refine (congrArg (fun s => s.customProperties.keys) (hoverride [("Weight", .number .zero)]
    (.text "spy"))).trans ?_
  exact (congrArg Dict.keys hcustom).trans (by decide)

end Record

end PluginCatalog
