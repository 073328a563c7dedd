import PluginCatalog.Proofs.Record.FlatForm

/-!
# The library in the flat form

The flat form of a record has one place for a library, and three things can claim it: the field that the
record declares, the path that the record has, and a custom property under the same key. They do so in
this order (`Record.flatLibrary`), whatever the path was taken from. So the path that a record has comes
back exactly if none of the other two hides it (`Record.libraryPath_toProperties`): a library that is
given when the record is made does not come back from beneath a declared one, and where no library is
known a custom property stands in for it (`Record.toProperties_hides_library`).
-/

namespace PluginCatalog

open Metadata (Declaration Field Source)

namespace Record

/-- The text of the custom property under the key of the library, empty if there is none. -/
def customLibrary (r : Record) : String :=
  ((r.customProperties.get? Field.library.key).bind Metadata.displayText?).getD ""

/-- The library that the flat form of a record names. -/
def flatLibrary (r : Record) : String :=
  if r.fields.contains Field.library.key then r.fieldText .library
  else if r.libraryPath.isEmpty then r.customLibrary
  else r.libraryPath

/-- Nothing hides the path of the library: a declared one is the same, and if there is neither, no custom
property stands in for it. -/
structure ShowsLibrary (r : Record) : Prop where
  /-- A declared library is the one that the record has. -/
  declared : r.fields.contains Field.library.key = true → r.fieldText .library = r.libraryPath
  /-- There is no text to be taken for a library that is not known. -/
  unknown : r.fields.contains Field.library.key = false → r.libraryPath = "" → r.customLibrary = ""

/-- The flat form names the library of a record exactly if nothing hides it. -/
theorem flatLibrary_eq_iff {r : Record} : r.flatLibrary = r.libraryPath ↔ r.ShowsLibrary := by
  cases hdeclared : r.fields.contains Field.library.key with
  | true =>
    rw [flatLibrary, if_pos hdeclared]
    exact ⟨fun h => ⟨fun _ => h, by simp [hdeclared]⟩, fun h => h.declared hdeclared⟩
  | false =>
    rw [flatLibrary, if_neg (by simp [hdeclared])]
    by_cases hpath : r.libraryPath = ""
    · rw [if_pos (String.isEmpty_iff.2 hpath), hpath]
      exact ⟨fun h => ⟨by simp [hdeclared], fun _ _ => h⟩, fun h => h.unknown hdeclared hpath⟩
    · rw [if_neg (by simpa using hpath)]
      exact ⟨fun _ => ⟨by simp [hdeclared], fun _ h => absurd h hpath⟩, fun _ => rfl⟩

/-- The flat form declares the library that it names. -/
theorem Valid.library_toProperties {r : Record} (h : r.Valid) :
    (Declaration.ofSource (.flat r.toProperties)).library = r.flatLibrary := by
  have hget : (Declaration.ofSource (.flat r.toProperties)).fields.get? Field.library.key
      = ((r.fields.entries.get? Field.library.key).or r.libraryProperty?).or
          ((r.customProperties.get? Field.library.key).bind Field.library.coerce?) :=
    h.get?_fieldsOf_toProperties_eq_or (f := .library) rfl
  rw [Declaration.library, hget, flatLibrary, fieldText, Bag.contains, Dict.contains, Bag.lookup,
    Properties.lookup]
  cases hdeclared : r.fields.entries.get? Field.library.key with
  | some v =>
    -- A declared library keeps its place, whatever path the record was given.
    cases v <;> rfl
  | none =>
    unfold libraryProperty?
    cases r.libraryPath.isEmpty with
    | false => rfl
    | true =>
      -- Only where nothing is known is the custom property read as a field.
      show ((none.or ((r.customProperties.get? Field.library.key).bind Field.library.coerce?)).bind
        Value.text?).getD "" = r.customLibrary
      rw [customLibrary, Option.none_or]
      cases r.customProperties.get? Field.library.key with
      | none => rfl
      | some v =>
        rw [Option.bind_some, Option.bind_some, Field.coerce?]
        cases Metadata.displayText? v <;> rfl

/-- The flat form gives a record again if no library is given, with the one that the form names. -/
theorem Valid.normalize_unlocated {r : Record} (h : r.Valid) (active : String) :
    ∃ s, normalize active (.flat r.toProperties) "" "" = .ok (some s) ∧
      s.libraryPath = r.flatLibrary := by
  have hnormalize := h.normalize_of_declared h.isEmpty_toProperties (fun f v hf hv => ?_) active "" ""
  · exact ⟨_, hnormalize, h.library_toProperties⟩
  · have htitle : f.isTitle = false := by rcases hf with rfl | rfl | rfl <;> rfl
    have hdeclared := h.get?_fieldsOf_toProperties_eq_or htitle
    rw [hv, Option.some_or, Option.some_or] at hdeclared
    exact hdeclared

/-- The flat form of a record, from whatever source and wherever its library was found, gives a record
with the library that the form names; it is the library of the first record exactly if neither a declared
one nor a custom property hides that. -/
theorem libraryPath_toProperties {locale libraryPath entryPath : String} {source : Source} {r : Record}
    (h : normalize locale source libraryPath entryPath = .ok (some r)) (active : String) :
    ∃ s, normalize active (.flat r.toProperties) "" "" = .ok (some s) ∧
      s.libraryPath = r.flatLibrary ∧ (s.libraryPath = r.libraryPath ↔ r.ShowsLibrary) := by
  obtain ⟨s, hnormalize, hlibrary⟩ := (valid_of_normalize h).normalize_unlocated active
  exact ⟨s, hnormalize, hlibrary, by rw [hlibrary, flatLibrary_eq_iff]⟩

/-- Structured metadata that says nothing of a library. -/
def unlocatedSource (key : String) : Source :=
  .structured (.ofList [("Plugin", .object [("Id", .string "spy"), ("EnabledByDefault", .bool true)]),
    (key, .string "/other.so")])

/-- Metadata in the older form with a library. -/
def locatedSource : Source :=
  .legacy (.ofList [("X-PluginInfo-Name", .string "spy"),
    ("ServiceTypes", .array [.string "Plugin/Spy"]), ("X-Library", .string "/declared.so")])

/-- A declared library comes back, and so does one that is given where none is declared. -/
theorem libraryPath_toProperties_shown :
    (∃ r s, normalize "" locatedSource "" "" = .ok (some r) ∧
      normalize "de" (.flat r.toProperties) "" "" = .ok (some s) ∧ s.libraryPath = "/declared.so") ∧
    ∃ r s, normalize "" (unlocatedSource "Origin") "/given.so" "" = .ok (some r) ∧
      normalize "de" (.flat r.toProperties) "" "" = .ok (some s) ∧ s.libraryPath = "/given.so" := by
  constructor
  · have h : normalize "" locatedSource "" "" = .ok (some _) := rfl
    obtain ⟨s, hs, -, hiff⟩ := libraryPath_toProperties h "de"
    exact ⟨_, s, h, hs, hiff.2 ⟨fun _ => rfl, nofun⟩⟩
  · have h : normalize "" (unlocatedSource "Origin") "/given.so" "" = .ok (some _) := rfl
    obtain ⟨s, hs, -, hiff⟩ := libraryPath_toProperties h "de"
    exact ⟨_, s, h, hs, hiff.2 ⟨nofun, fun _ => nofun⟩⟩

/-- A library that is given in place of a declared one is lost, and where none is known a custom property
takes its place. -/
theorem toProperties_hides_library :
    (∃ r s, normalize "" locatedSource "/given.so" "" = .ok (some r) ∧ r.libraryPath = "/given.so" ∧
      normalize "" (.flat r.toProperties) "" "" = .ok (some s) ∧ s.libraryPath = "/declared.so") ∧
    ∃ r s, normalize "" (unlocatedSource "X-Plugin-Library") "" "" = .ok (some r) ∧
      r.libraryPath = "" ∧
      normalize "" (.flat r.toProperties) "" "" = .ok (some s) ∧ s.libraryPath = "/other.so" :=
  ⟨⟨_, _, rfl, rfl, rfl, rfl⟩, _, _, rfl, rfl, rfl, rfl⟩

end Record

end PluginCatalog
