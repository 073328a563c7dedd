import PluginCatalog.Property.Value

/-!
# Properties

`Properties` are values by key, as a source of metadata gives them; among them there may be absent
values. A `Bag` is what a plugin keeps of them: it stores no absent value, so a key is present exactly
if its lookup gives a value.
-/

namespace PluginCatalog

/-- Property values by key. -/
abbrev Properties := Dict Value

/-- The value of a property, absent if there is none. -/
def Properties.lookup (p : Properties) (key : String) : Value := (p.get? key).getD .absent

/-- Properties without absent values. -/
structure Bag where
  /-- The values by key. -/
  entries : Properties
  /-- No absent value is stored. -/
  present : ∀ key, entries.get? key ≠ some .absent

namespace Bag

/-- Keeps the values of some properties that are not absent. -/
def ofProperties (p : Properties) : Bag where
  entries := p.filter fun _ v => !v.isAbsent
  present key h := by
    rw [Dict.get?_filter, Option.filter_eq_some_iff] at h
    exact absurd h.2 (by decide)

/-- The bag without properties. -/
def empty : Bag := ofProperties .empty

instance : Inhabited Bag := ⟨empty⟩

/-- Two bags with the same entries are the same. -/
theorem ext_entries {b c : Bag} (h : b.entries = c.entries) : b = c := by
  cases b
  cases c
  subst h
  rfl

instance : DecidableEq Bag := fun b c =>
  if h : b.entries = c.entries then isTrue (ext_entries h) else isFalse fun e => h (e ▸ rfl)

/-- The value of a property, absent if there is none. -/
def lookup (b : Bag) (key : String) : Value := b.entries.lookup key

/-- Whether a property is present. -/
def contains (b : Bag) (key : String) : Bool := b.entries.contains key

/-- A bag finds what the properties it was made of do. -/
theorem lookup_ofProperties (p : Properties) (key : String) :
    (ofProperties p).lookup key = p.lookup key := by
  simp only [lookup, Properties.lookup, ofProperties, Dict.get?_filter]
  cases p.get? key with
  | none => rfl
  | some v => cases v <;> rfl

/-- A present property of a bag is what its lookup finds. -/
theorem get?_entries (b : Bag) (key : String) :
    b.entries.get? key = if (b.lookup key).isAbsent then none else some (b.lookup key) := by
  rw [lookup, Properties.lookup]
  cases hv : b.entries.get? key with
  | none => rfl
  | some v =>
    cases v with
    | absent => exact absurd hv (b.present key)
    | _ => rfl

/-- A property is present exactly if its lookup gives a value. -/
theorem contains_eq (b : Bag) (key : String) : b.contains key = !(b.lookup key).isAbsent := by
  rw [contains, Dict.contains, get?_entries]
  cases (b.lookup key).isAbsent <;> rfl

/-- Whether two bags have the same keys with equal values. -/
def same (b c : Bag) : Bool :=
  b.entries.keys = c.entries.keys
    && (b.entries.values.zip c.entries.values).all fun (v, w) => v.same w

/-- The JSON object of a bag. -/
def toJson (b : Bag) : Json := .ofDict (b.entries.map fun _ v => v.toJson)

end Bag

end PluginCatalog
