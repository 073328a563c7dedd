import PluginCatalog.Proofs.Constraint.Frame
import PluginCatalog.Proofs.Constraint.RoundTrip
import PluginCatalog.Proofs.Record.Coherence
import PluginCatalog.Proofs.Record.Lossless

/-!
# What constraints see of a record in the structured form

A record from a structured source is read again from its structured form with all of its properties but
for two: the author and the address are written together, as soon as one of them is not empty. Accessors
cannot tell the difference, constraints can, since they see whether a property is there. So a constraint
that does not look at the two has the same outcome as before, and all constraints do exactly if the two are
there as they were, or hidden by custom properties (`Record.evaluate_toJson`).
-/

namespace PluginCatalog

open Metadata (Declaration Field Source namespaceName)

namespace Record

/-- Whether the structured form names the author and the address. -/
def writesAuthors (r : Record) : Bool := !(r.author.isEmpty && r.email.isEmpty)

/-- The structured form keeps whether a field of the author is there: it is hidden by a custom property,
or declared exactly if both are written. -/
def KeepsPresence (r : Record) (f : Field) : Prop :=
  r.customProperties.contains f.key = true ∨ r.fields.contains f.key = r.writesAuthors

variable {r : Record}

section

variable (hvalid : r.Valid) (h : r.Lossless)
  (hplugin : r.customProperties.contains namespaceName = false)

include hvalid h hplugin in
/-- The record that is read again has the fields of the first one, but for the author and the address. -/
theorem Lossless.get?_fields_restructured {key : String}
    (hkey : key ≠ Field.author.key ∧ key ≠ Field.email.key) :
    r.restructured.fields.entries.get? key = r.fields.entries.get? key := by
  refine h.areFields_restructured.get?_congr h.areFields fun f hf hfield => ?_
  have hother : ¬(f = .author ∨ f = .email) := by
    rintro (rfl | rfl)
    · exact hkey.1 hfield
    · exact hkey.2 hfield
  rw [hfield, restructured, hvalid.get?_fields_record_document hplugin "" r.titles hf.1, if_neg hother,
    if_neg hf.2]

include hvalid hplugin in
/-- Its author and address are there exactly if they are written. -/
theorem Valid.get?_author_restructured {f : Field} (hf : f = .author ∨ f = .email) :
    r.restructured.fields.entries.get? f.key
      = if r.writesAuthors then some (.text (r.fieldText f)) else none := by
  have htitle : f.isTitle = false := by rcases hf with rfl | rfl <;> rfl
  rw [restructured, hvalid.get?_fields_record_document hplugin "" r.titles htitle, if_pos hf,
    writesAuthors]
  cases r.author.isEmpty && r.email.isEmpty <;> rfl

include hvalid h hplugin in
/-- All properties but the author and the address are those of the record. -/
theorem Lossless.get?_properties_restructured {key : String}
    (hkey : key ≠ Field.author.key ∧ key ≠ Field.email.key) :
    r.restructured.properties.entries.get? key = r.properties.entries.get? key := by
  rw [h.properties_restructured hvalid hplugin, ← h.overlay_customProperties, Dict.get?_overlay,
    Dict.get?_overlay, h.get?_fields_restructured hvalid hplugin hkey]

include hvalid h hplugin in
/-- The author and the address are as they were if the structured form keeps whether they are there. -/
theorem Lossless.get?_properties_of_keeps {f : Field} (hf : f = .author ∨ f = .email)
    (hkeeps : r.KeepsPresence f) :
    r.restructured.properties.entries.get? f.key = r.properties.entries.get? f.key := by
  rw [h.properties_restructured hvalid hplugin, ← h.overlay_customProperties, Dict.get?_overlay,
    Dict.get?_overlay, hvalid.get?_author_restructured hplugin hf]
  rcases hkeeps with hhidden | hdeclared
  · obtain ⟨v, hv⟩ := Dict.contains_eq_true_iff.1 hhidden
    rw [hv, Option.some_or, Option.some_or]
  · cases hwrites : r.writesAuthors with
    | false =>
      rw [hwrites] at hdeclared
      rw [Dict.contains_eq_false_iff.1 hdeclared]
      rfl
    | true =>
      rw [hwrites] at hdeclared
      have hkind : f.kind = .text := by rcases hf with rfl | rfl <;> rfl
      rw [hvalid.get?_text hkind hdeclared]
      rfl

include hvalid h hplugin in
/-- If they are there as before, the structured form keeps that. -/
theorem Lossless.keeps_of_contains {f : Field} (hf : f = .author ∨ f = .email)
    (hcontains : r.restructured.properties.contains f.key = r.properties.contains f.key) :
    r.KeepsPresence f := by
  rw [Bag.contains, Bag.contains, Dict.contains, Dict.contains,
    h.properties_restructured hvalid hplugin, ← h.overlay_customProperties, Dict.get?_overlay,
    Dict.get?_overlay, hvalid.get?_author_restructured hplugin hf] at hcontains
  cases hhidden : r.customProperties.get? f.key with
  | some v => exact .inl (Dict.contains_eq_true_iff.2 ⟨v, hhidden⟩)
  | none =>
    rw [hhidden, Option.none_or, Option.none_or] at hcontains
    refine .inr (hcontains.symm.trans ?_)
    cases r.writesAuthors <;> rfl

end

/-- A property is looked up as the same in records with the same titles that hold the same of it. -/
theorem lookup_congr {s : Record} (htitles : s.titles = r.titles) {key : String}
    (h : s.properties.entries.get? key = r.properties.entries.get? key) (locale : String) :
    s.lookup locale key = r.lookup locale key := by
  simp only [lookup, Bag.lookup, Properties.lookup, h, name, comment, htitles]

/-- Whether a property that is no title is there is seen by the lookup. -/
theorem isAbsent_lookup {f : Field} (hf : f.isTitle = false) (locale : String) :
    (r.lookup locale f.key).isAbsent = !r.properties.contains f.key := by
  rw [lookup_key hf, Bag.contains_eq, Bool.not_not]

/-- A record from a structured source is read again from its structured form, if no custom property is
called like the object `Plugin`. Constraints then have the outcome they had, in every locale, if
they do not look at an author or an address whose presence is not kept; so all constraints do exactly if
both are kept. -/
theorem evaluate_toJson {locale libraryPath : String} {root : Dict Json}
    (h : normalize locale (.structured root) libraryPath "" = .ok (some r))
    (hplugin : r.customProperties.contains namespaceName = false) (locale' : String) :
    ∃ s, normalize locale' (Source.ofJson r.toJson) r.libraryPath "" = .ok (some s) ∧
      (∀ c : Constraint,
        (∀ f : Field, f = .author ∨ f = .email → f.key ∈ c.root.keys → r.KeepsPresence f) →
        ∀ active, c.evaluate (s.lookup active) = c.evaluate (r.lookup active)) ∧
      ((∀ text c, Constraint.parse text = .ok c →
          ∀ active, c.evaluate (s.lookup active) = c.evaluate (r.lookup active)) ↔
        r.KeepsPresence .author ∧ r.KeepsPresence .email) := by
  have hvalid := valid_of_normalize h
  have hlossless := lossless_of_normalize h
  -- A constraint sees a record through its keys, and at most those of the authors look different.
  have hkept (c : Constraint)
      (hkeeps : ∀ f : Field, f = .author ∨ f = .email → f.key ∈ c.root.keys → r.KeepsPresence f)
      (active : String) :
      c.evaluate (r.restructured.lookup active) = c.evaluate (r.lookup active) := by
    have htitles : r.restructured.titles = r.titles := rfl
    refine Constraint.Expr.evaluate_congr c.root fun key hkey => lookup_congr htitles ?_ active
    by_cases hother : key ≠ Field.author.key ∧ key ≠ Field.email.key
    · exact hlossless.get?_properties_restructured hvalid hplugin hother
    · obtain ⟨f, hf, rfl⟩ : ∃ f : Field, (f = .author ∨ f = .email) ∧ key = f.key := by
        by_cases hauthor : key = Field.author.key
        · exact ⟨.author, .inl rfl, hauthor⟩
        · exact ⟨.email, .inr rfl, not_not.1 fun hemail => hother ⟨hauthor, hemail⟩⟩
      exact hlossless.get?_properties_of_keeps hvalid hplugin hf (hkeeps f hf hkey)
  refine ⟨r.restructured, hlossless.normalize_restructured hvalid hplugin locale', hkept,
    fun hall => ?_, fun hkeeps text c _ => hkept c fun f hf _ => ?_⟩
  · -- The constraint that asks for the presence of a field tells the records apart.
    have hpresence (f : Field) (hf : f = .author ∨ f = .email) : r.KeepsPresence f := by
      have htitle : f.isTitle = false := by rcases hf with rfl | rfl <;> rfl
      have hword : Constraint.isWord f.key.toList = true := by rcases hf with rfl | rfl <;> decide
      have hparse := Constraint.parse_text_of_wellFormed (.presence hword) nofun
      have habsent := Constraint.Expr.evaluate_presence_eq_iff.1 (hall _ _ hparse "")
      rw [isAbsent_lookup htitle, isAbsent_lookup htitle, Bool.not_inj_iff] at habsent
      exact hlossless.keeps_of_contains hvalid hplugin hf habsent
    exact ⟨hpresence .author (.inl rfl), hpresence .email (.inr rfl)⟩
  · rcases hf with rfl | rfl
    · exact hkeeps.1
    · exact hkeeps.2

/-- Structured metadata with an author who has no address. -/
def authoredSource : Source :=
  .structured (.ofList [("Plugin", .object [("Id", .string "spy"), ("EnabledByDefault", .bool true),
    ("Authors", .object [("Name", .string "Ada")])])])

/-- An author with an empty address is read again as declared, and no constraint sees a difference; from
one without an address none does that does not look at it. -/
theorem evaluate_toJson_declared :
    (∃ r s, normalize "" translatedSource "" "" = .ok (some r) ∧
      normalize "de" (Source.ofJson r.toJson) r.libraryPath "" = .ok (some s) ∧
      ∀ text c, Constraint.parse text = .ok c →
        ∀ active, c.evaluate (s.lookup active) = c.evaluate (r.lookup active)) ∧
    ∃ r s, normalize "" authoredSource "" "" = .ok (some r) ∧
      normalize "de" (Source.ofJson r.toJson) r.libraryPath "" = .ok (some s) ∧
      ∀ c : Constraint, Field.email.key ∉ c.root.keys →
        ∀ active, c.evaluate (s.lookup active) = c.evaluate (r.lookup active) := by
  constructor
  · have h : normalize "" translatedSource "" "" = .ok (some _) := rfl
    obtain ⟨s, hs, -, hiff⟩ := evaluate_toJson h rfl "de"
    exact ⟨_, s, h, hs, hiff.2 ⟨.inr rfl, .inr rfl⟩⟩
  · have h : normalize "" authoredSource "" "" = .ok (some _) := rfl
    obtain ⟨s, hs, hkept, -⟩ := evaluate_toJson h rfl "de"
    refine ⟨_, s, h, hs, fun c hemail => hkept c fun f hf hkey => ?_⟩
    rcases hf with rfl | rfl
    · exact .inr rfl
    · exact absurd hkey hemail

/-- The address of an author who has none is there in the record that is read again. -/
theorem toJson_adds_email :
    ∃ r s c, normalize "" authoredSource "" "" = .ok (some r) ∧
      normalize "" (Source.ofJson r.toJson) r.libraryPath "" = .ok (some s) ∧
      Constraint.parse "EXIST [X-Plugin-Email]" = .ok c ∧
      c.evaluate (r.lookup "") = .fails ∧ c.evaluate (s.lookup "") = .holds := by
  have hparse : Constraint.parse (Constraint.Expr.presence "X-Plugin-Email").text = .ok _ :=
    Constraint.parse_text_of_wellFormed (.presence (by decide)) nofun
  exact ⟨_, _, _, rfl, rfl, hparse, rfl, rfl⟩

end Record

end PluginCatalog
