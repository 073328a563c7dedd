import Mathlib.Data.List.Forall2
import PluginCatalog.Proofs.Record.Accessors

/-!
# Equal records

Equality of records compares their properties, with numbers by their value, their titles and their paths
(`Record.same`). That is all that constraints look at, so equal records have the same outcomes
(`Record.agrees_of_same`). It does not compare the fields, which custom properties may hide; but where none
does, the fields are what the properties hold under their keys (`Record.fields_eq_of_same`), and the
accessors and the custom properties of equal records agree too (`Record.same_indistinguishable`).
-/

namespace PluginCatalog

open Metadata (Declaration Field Source)

/-! ## Equal properties -/

/-- An entry has the key of another one, and a value that equals that of the other. -/
def SameEntry (e e' : String × Value) : Prop := e.1 = e'.1 ∧ e.2.same e'.2 = true

/-- Properties hold the same keys in the same order, with equal values. -/
def Properties.Same (p q : Properties) : Prop := List.Forall₂ SameEntry p.toList q.toList

/-- Bags are equal if their entries are. -/
theorem Bag.same_iff {b c : Bag} : b.same c = true ↔ b.entries.Same c.entries := by
  unfold Bag.same Properties.Same Dict.keys Dict.values
  generalize b.entries.toList = l
  generalize c.entries.toList = m
  rw [Bool.and_eq_true, decide_eq_true_eq]
  induction l generalizing m with
  | nil => cases m <;> simp
  | cons e l ih =>
    cases m with
    | nil => simp
    | cons e' m =>
      rw [List.forall₂_cons, ← ih]
      simp only [List.map_cons, List.cons.injEq, List.zip_cons_cons, List.all_cons, Bool.and_eq_true,
        SameEntry]
      tauto

namespace Properties.Same

variable {p q : Properties} (h : p.Same q)

include h

/-- Equal properties find values that agree. -/
theorem lookup_agrees (key : String) : (p.lookup key).Agrees (q.lookup key) := by
  unfold Same at h
  unfold Properties.lookup Dict.get?
  generalize p.toList = l at h
  generalize q.toList = m at h
  induction h with
  | nil => exact .of_eq rfl
  | @cons e e' l m he _ ih =>
    obtain ⟨hkey, hvalue⟩ := he
    rw [Dict.lookup, Dict.lookup, ← hkey]
    split
    · exact .inr hvalue
    · exact ih

/-- Equal properties stay equal if what is left out of both does not depend on how they differ. -/
theorem filter {keeps keeps' : String → Value → Bool}
    (hkeeps : ∀ key v w, v.same w = true → keeps key v = keeps' key w) :
    Properties.Same (p.filter keeps) (q.filter keeps') := by
  refine List.rel_filter (fun e e' he => ?_) h
  obtain ⟨hkey, hvalue⟩ := he
  dsimp only
  rw [hkey, hkeeps e'.1 e.2 e'.2 hvalue]

end Properties.Same

namespace Record

/-! ## Equal records -/

/-- What equality of records compares. -/
theorem same_iff {r s : Record} :
    r.same s = true ↔ r.properties.entries.Same s.properties.entries ∧ r.titles = s.titles ∧
      r.libraryPath = s.libraryPath ∧ r.entryPath = s.entryPath := by
  simp only [same, Bool.and_eq_true, decide_eq_true_eq, Bag.same_iff, and_assoc]

variable {r s : Record}

/-- Equal records find values that agree, in every locale. -/
theorem agrees_of_same (h : r.same s = true) (locale key : String) :
    (r.lookup locale key).Agrees (s.lookup locale key) := by
  obtain ⟨hproperties, htitles, -, -⟩ := same_iff.1 h
  have hfound : (r.properties.lookup key).Agrees (s.properties.lookup key) :=
    hproperties.lookup_agrees key
  have hstandIn : r.standIn locale key = s.standIn locale key := by
    simp only [standIn, name, comment, htitles]
  rw [lookup_eq_standIn, lookup_eq_standIn, hfound.isAbsent_eq, hstandIn]
  split
  · exact .of_eq rfl
  · exact hfound

/-- The value of a field agrees with itself alone. -/
theorem Coherent.eq_of_agrees (h : r.Coherent) {key : String} {v : Value}
    (hv : (r.fields.lookup key).Agrees v) : r.fields.lookup key = v := by
  obtain hv | hv := hv
  · exact hv
  · exact (h.same_field_iff key v).1 hv

/-- The accessors of records with the same fields, titles and library read the same. -/
theorem accessor_congr (hfields : r.fields = s.fields) (htitles : r.titles = s.titles)
    (hlibrary : r.libraryPath = s.libraryPath) (env : Environment) (f : Field) :
    r.accessor env f = s.accessor env f := by
  have hvalue : r.fieldValue f = s.fieldValue f := fieldValue_congr (by rw [hfields])
  by_cases hf : f = .library
  · subst hf
    exact congrArg Value.text hlibrary
  · cases htitle : f.isTitle with
    | false => rw [accessor_eq_fieldValue env htitle hf, accessor_eq_fieldValue env htitle hf, hvalue]
    | true =>
      cases f with
      | name | comment => simp only [accessor, read, htitles]
      | _ => cases htitle

/-- Equal records have the same fields, if sources give both and neither shows a custom property under the
key of a field. -/
theorem fields_eq_of_same (h : r.same s = true) {locale locale' libraryPath libraryPath' : String}
    {entryPath entryPath' : String} {source source' : Source}
    (hr : normalize locale source libraryPath entryPath = .ok (some r))
    (hs : normalize locale' source' libraryPath' entryPath' = .ok (some s))
    (hcustom : ∀ f : Field, r.customProperties.contains f.key = false ∧
      s.customProperties.contains f.key = false) : r.fields = s.fields := by
  refine Bag.ext_entries ((valid_of_normalize hr).areFields.ext (valid_of_normalize hs).areFields
    fun f _ => ?_)
  have hfound : (r.properties.lookup f.key).Agrees (s.properties.lookup f.key) :=
    (same_iff.1 h).1.lookup_agrees f.key
  rw [lookup_properties_of_contains hr (hcustom f).1,
    lookup_properties_of_contains hs (hcustom f).2] at hfound
  rw [Bag.get?_entries, Bag.get?_entries, (coherent_of_normalize hr).eq_of_agrees hfound]

/-- Equal records with the same fields have equal custom properties. -/
theorem same_customProperties (h : r.same s = true) (hr : r.Coherent) (hfields : r.fields = s.fields) :
    r.customProperties.Same s.customProperties := by
  refine (same_iff.1 h).1.filter fun key v w hvw => ?_
  rw [← hfields]
  obtain rfl | ⟨x, y, rfl, rfl, -⟩ := Value.Agrees.eq_or_numbers (.inr hvw)
  · rfl
  · simp [hr.lookup_fields_ne_number key]

/-- Equal records cannot be told apart: every constraint has the same outcome on both in every locale, their
titles are the same, in every locale and translated at the same times, and so are their paths. If they come
straight from sources and show no custom property under the key of a field, all accessors read the same of
both, and they have the same custom properties with equal values. -/
theorem same_indistinguishable (h : r.same s = true) :
    (∀ (c : Constraint) (locale : String),
      c.evaluate (r.lookup locale) = c.evaluate (s.lookup locale)) ∧
    (∀ locale, r.name locale = s.name locale ∧ r.comment locale = s.comment locale) ∧
    r.titles = s.titles ∧ r.policy = s.policy ∧
    r.libraryPath = s.libraryPath ∧ r.entryPath = s.entryPath ∧
    ∀ (locale locale' libraryPath libraryPath' entryPath entryPath' : String) (source source' : Source),
      normalize locale source libraryPath entryPath = .ok (some r) →
      normalize locale' source' libraryPath' entryPath' = .ok (some s) →
      (∀ f : Field, r.customProperties.contains f.key = false ∧
        s.customProperties.contains f.key = false) →
      (∀ env f, r.accessor env f = s.accessor env f) ∧ r.customProperties.Same s.customProperties := by
  obtain ⟨-, htitles, hlibrary, hentry⟩ := same_iff.1 h
  refine ⟨fun c locale => ?_, fun locale => ?_, htitles, ?_, hlibrary, hentry, ?_⟩
  · exact c.root.evaluate_agrees fun key _ => agrees_of_same h locale key
  · simp only [name, comment, htitles, and_self]
  · rw [policy, policy, htitles]
  · intro locale locale' libraryPath libraryPath' entryPath entryPath' source source' hr hs hcustom
    have hfields := fields_eq_of_same h hr hs hcustom
    exact ⟨accessor_congr hfields htitles hlibrary,
      same_customProperties h (coherent_of_normalize hr) hfields⟩

/-- Flat metadata with a weight and some value that enables the plugin by default. -/
def weighted (enabled : Value) (weight : Binary64) : Source :=
  .flat (.ofList [("X-Plugin-Id", .text "spy"), ("X-Plugin-EnabledByDefault", enabled),
    ("Name[de]", .text "Spion"), ("Weight", .number weight)])

/-- The plugin of it. -/
def weightedRecord (enabled : Value) (weight : Binary64) : Record :=
  (Declaration.ofSource (weighted enabled weight)).record "spy" "/p/a.so" "" (.frozen "" "")

/-- Two plugins of which one weighs zero and the other the zero with a minus sign, enabled by a word and by a
truth value: they are different records, but equal, and cannot be told apart. -/
theorem same_indistinguishable_zeros :
    let r := weightedRecord (.text "TRUE") .zero
    let s := weightedRecord (.bool true) (.signed true .zero)
    normalize "fr" (weighted (.text "TRUE") .zero) "/p/a.so" "" = .ok (some r) ∧
      normalize "C" (weighted (.bool true) (.signed true .zero)) "/p/a.so" "" = .ok (some s) ∧
      r.same s = true ∧ r ≠ s ∧
      (∀ c : Constraint, c.evaluate (r.lookup "de") = c.evaluate (s.lookup "de")) ∧
      r.accessor .bare .enabledByDefault = s.accessor .bare .enabledByDefault ∧
      r.customProperties.Same s.customProperties := by
  intro r s
  have hr : normalize "fr" (weighted (.text "TRUE") .zero) "/p/a.so" "" = .ok (some r) := rfl
  have hs : normalize "C" (weighted (.bool true) (.signed true .zero)) "/p/a.so" "" = .ok (some s) := rfl
  have hsame : r.same s = true := by decide
  have hcustom (f : Field) : r.customProperties.contains f.key = false ∧
      s.customProperties.contains f.key = false := by
    cases f <;> decide
  obtain ⟨houtcome, -, -, -, -, -, hsources⟩ := same_indistinguishable hsame
  obtain ⟨haccessor, hproperties⟩ := hsources _ _ _ _ _ _ _ _ hr hs hcustom
  exact ⟨hr, hs, hsame, by decide, fun c => houtcome c "de", haccessor _ _, hproperties⟩

end Record

end PluginCatalog
