import PluginCatalog.Proofs.Constraint.Frame
import PluginCatalog.Record.Reading

/-!
# Constraints on different stores of properties

Properties are looked up in a bag, in properties as a source gives them, or in a record, where a title
stands in for a property that is not there. For a constraint it does not matter in which, as long as the
lookups agree on what it names. A bag finds what the properties do that it was made of, with their
absent values (`Bag.lookup_ofProperties`), and one more custom property is seen under its own key only
(`Record.lookup_withProperty`).
-/

namespace PluginCatalog

/-- One more custom property is what the properties hold under its key, and nothing else of them changes. -/
theorem Record.lookup_properties_withProperty (r : Record) (key : String) (value : Value)
    (other : String) :
    (r.withProperty key value).properties.lookup other
      = if other = key then value else r.properties.lookup other := by
  rw [withProperty, Bag.lookup_ofProperties, Properties.lookup, Dict.get?_insert]
  split <;> rfl

/-- One more custom property changes no other lookup, in whatever locale. -/
theorem Record.lookup_withProperty (r : Record) {key other : String} (h : other ≠ key) (value : Value)
    (locale : String) : (r.withProperty key value).lookup locale other = r.lookup locale other := by
  rw [lookup, lookup, lookup_properties_withProperty, if_neg h]
  rfl

namespace Constraint.Expr

/-- The outcome of an expression is the same for any two stores whose lookups agree on the keys in it.
So it is the same for properties with absent values among them and for the bag of the others, and a custom
property under a key that is not in it changes nothing, in whatever locale. -/
theorem evaluate_frame (e : Expr) :
    (∀ lookup lookup' : String → Value,
      (∀ key ∈ e.keys, (lookup key).Agrees (lookup' key)) → e.evaluate lookup = e.evaluate lookup') ∧
    (∀ p : Properties, e.evaluate p.lookup = e.evaluate (Bag.ofProperties p).lookup) ∧
    ∀ (r : Record) (key : String) (value : Value), key ∉ e.keys →
      ∀ locale, e.evaluate ((r.withProperty key value).lookup locale)
        = e.evaluate (r.lookup locale) := by
  refine ⟨fun lookup lookup' => evaluate_agrees e, fun p => ?_, fun r key value hkey locale => ?_⟩
  · exact evaluate_congr e fun key _ => (Bag.lookup_ofProperties p key).symm
  · refine evaluate_congr e fun other hother => r.lookup_withProperty ?_ value locale
    rintro rfl
    exact hkey hother

/-- A record that is called `Spion` in German has the outcome of properties in which that name is stored, an
absent value besides, and the other zero. A description over the record's own is not looked at. -/
theorem evaluate_frame_german :
    let r : Record :=
      { (default : Record) with
        titles := .translatable ⟨"Spy", .ofList [("de", "Spion")]⟩ (.ofText "")
        properties := .ofProperties (.ofList [("Weight", .number .zero)]) }
    let p : Properties := .ofList
      [("Name", .text "Spion"), ("Gone", .absent), ("Weight", .number (.signed true .zero))]
    let e : Expr := .logical .and
      [.comparison .eq (.property "Name") (.literal (.string "Spion")),
        .logical .not [.presence "Gone"],
        .comparison .eq (.property "Weight") (.literal (.number .zero))]
    e.evaluate (r.lookup "de") = e.evaluate p.lookup ∧
      e.evaluate ((r.withProperty "Comment" (.text "x")).lookup "de")
        = e.evaluate (r.lookup "de") := by
  intro r p e
  obtain ⟨hstores, -, hadded⟩ := evaluate_frame e
  exact ⟨hstores (r.lookup "de") p.lookup (by decide +kernel), hadded r "Comment" (.text "x") (by decide) "de"⟩

end Constraint.Expr

end PluginCatalog
