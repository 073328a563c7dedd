import PluginCatalog.Proofs.Record.Validity

/-!
# When a source gives a record

Whether a source gives a record is decided by four of its fields and by the path of its library. What the
source holds for a field is found under the name that its form has for the field (`Source.value?`), and
counts only if it can be brought to the kind of the field (`Source.declared?`). From this it is said without
looking at a declaration when a source names its plugin (`Source.Identifies`), where the library is
(`Source.path`), when nothing identifies the plugin (`Source.IsMalformed`) and when the plugin is of use
(`Source.IsUseful`). The outcome of each source is determined by these (`Record.normalize_outcome`), and of
several sources each has its own.
-/

namespace PluginCatalog

open Metadata (Declaration Field Source Vocabulary)

namespace Metadata

namespace Source

/-- The value that a source holds for a field, under the name that its form has for it. -/
def value? : Source → Field → Option Value
  | structured root, f =>
    ((Vocabulary.structured.name? f).bind (Declaration.namespaceMembers root).get?).bind Value.ofJson?
  | legacy root, f => ((Vocabulary.legacy.name? f).bind root.get?).bind Value.ofJson?
  | flat p, f => p.get? f.key

/-- The value that a source declares for a field, brought to the kind of the field. -/
def declared? (source : Source) (f : Field) : Option Value := (source.value? f).bind f.coerce?

/-- A source declares an identifier. -/
def Identifies (source : Source) (id : String) : Prop :=
  source.declared? .id = some (.text id) ∧ id ≠ ""

/-- The path of the library: the one that is given, else the declared one, else the empty one. -/
def path (source : Source) (libraryPath : String) : String :=
  if libraryPath = "" then ((source.declared? .library).bind Value.text?).getD "" else libraryPath

/-- A source says something, but neither it nor the file name of its library identifies a plugin. -/
structure IsMalformed (source : Source) (libraryPath : String) : Prop where
  /-- The source says something. -/
  nonempty : source.isEmpty = false
  /-- It declares no identifier. -/
  unidentified : ∀ id, ¬source.Identifies id
  /-- Its library has no file name to take one from. -/
  unlocated : Path.fileStem? (source.path libraryPath) = none

/-- A source declares services, or whether the plugin is enabled by default. -/
def IsUseful (source : Source) : Prop :=
  (∃ items, source.declared? .serviceTypes = some (.list items) ∧ items ≠ []) ∨
    ∃ b, source.declared? .enabledByDefault = some (.bool b)

end Source

/-! ## Declarations -/

namespace Declaration

/-- The author changes no field but the author and the address. -/
theorem get?_addAuthor (members : Dict Json) (fields : Properties) {f : Field}
    (hauthor : f ≠ .author) (hemail : f ≠ .email) :
    (addAuthor members fields).get? f.key = fields.get? f.key := by
  have hfield (author : Dict Json) (member : String) (g : Field) (hg : f ≠ g) (p : Properties) :
      (addAuthorField author member g p).get? f.key = p.get? f.key := by
    unfold addAuthorField
    split
    · rw [Dict.get?_insert, if_neg fun hkey => hg (Field.key_injective hkey)]
    · rfl
  unfold addAuthor
  split
  · rw [hfield _ _ _ hemail, hfield _ _ _ hauthor]
  · rfl

/-- What a document holds under a name, as a property. -/
theorem get?_convert (members : Dict Json) (name : String) :
    (convert members).get? name = (members.get? name).bind Value.ofJson? :=
  Dict.get?_filterMap members _ name

/-- A declaration has of each field what its source declares, titles and authors apart. -/
theorem get?_fields_ofSource (source : Source) {f : Field} (htitle : f.isTitle = false)
    (hauthor : f ≠ .author) (hemail : f ≠ .email) :
    (ofSource source).fields.get? f.key = source.declared? f := by
  cases source with
  | flat p =>
    show (fieldsOf _ _).get? _ = _
    rw [get?_fieldsOf, htitle]
    rfl
  | legacy root =>
    have hvalue : fieldValue? .legacy (convert root) f = (Source.legacy root).value? f := by
      rw [fieldValue?, Source.value?, Option.bind_assoc]
      exact Option.bind_congr fun name _ => get?_convert root name
    show (fieldsOf _ _).get? _ = _
    rw [get?_fieldsOf, htitle, hvalue]
    rfl
  | structured root =>
    have hvalue : fieldValue? .structured (convert ((namespaceMembers root).erase authorsName)) f
        = (Source.structured root).value? f := by
      rw [fieldValue?, Source.value?, Option.bind_assoc]
      refine Option.bind_congr fun name hname => ?_
      -- The authors stand under a name that is the one of no field.
      have hother : name ≠ authorsName := by
        rintro rfl
        have hslot : Vocabulary.structured.slot authorsName = .custom := by decide
        rw [Vocabulary.reads_structured f _ hname] at hslot
        cases hslot
      rw [get?_convert, Dict.get?_erase, if_neg hother]
    show (addAuthor _ (fieldsOf _ _)).get? _ = _
    rw [get?_addAuthor _ _ hauthor hemail, get?_fieldsOf, htitle, hvalue]
    rfl

variable (source : Source)

/-- A declared identifier is one that the source declares. -/
theorem declaredId?_eq_some_iff {id : String} :
    (ofSource source).declaredId? = some id ↔ source.Identifies id := by
  rw [declaredId?, get?_fields_ofSource source rfl (by decide) (by decide), Source.Identifies,
    Option.filter_eq_some_iff, Option.bind_eq_some_iff]
  constructor
  · rintro ⟨⟨v, hv, htext⟩, hne⟩
    cases v <;> cases htext
    exact ⟨hv, by simpa using hne⟩
  · rintro ⟨hv, hne⟩
    exact ⟨⟨_, hv, rfl⟩, by simpa using hne⟩

/-- There is no declared identifier if the source declares none. -/
theorem declaredId?_eq_none_iff :
    (ofSource source).declaredId? = none ↔ ∀ id, ¬source.Identifies id := by
  rw [Option.eq_none_iff_forall_ne_some]
  exact forall_congr' fun id => not_congr (declaredId?_eq_some_iff source)

/-- A plugin is of use if its source says so. -/
theorem isUseful_iff : (ofSource source).isUseful = true ↔ source.IsUseful := by
  have henabled (v : Value) (hv : source.declared? .enabledByDefault = some v) : ∃ b, v = .bool b := by
    obtain ⟨given, -, hcoerce⟩ := Option.bind_eq_some_iff.1 hv
    obtain ⟨b, -, rfl⟩ := Option.map_eq_some_iff.1 hcoerce
    exact ⟨b, rfl⟩
  rw [isUseful, Bool.or_eq_true, serviceTypes, Dict.contains,
    get?_fields_ofSource source rfl (by decide) (by decide),
    get?_fields_ofSource source rfl (by decide) (by decide), Source.IsUseful]
  refine or_congr ?_ ?_
  · cases source.declared? .serviceTypes with
    | none => simp
    | some v => cases v <;> simp [Value.list?]
  · rw [Option.isSome_iff_exists]
    constructor
    · rintro ⟨v, hv⟩
      obtain ⟨b, rfl⟩ := henabled v hv
      exact ⟨b, hv⟩
    · rintro ⟨b, hb⟩
      exact ⟨_, hb⟩

/-- The library of a record is where its source says. -/
theorem effectivePath_ofSource (libraryPath : String) :
    Record.effectivePath (ofSource source) libraryPath = source.path libraryPath := by
  rw [Record.effectivePath, library, get?_fields_ofSource source rfl (by decide) (by decide),
    Source.path]
  simp only [String.isEmpty_iff]

end Declaration

end Metadata

namespace Record

open Metadata.Declaration (declaredId?_eq_some_iff declaredId?_eq_none_iff isUseful_iff effectivePath_ofSource)

variable {locale libraryPath entryPath : String} {source : Source}

/-- Nothing names a plugin if its source declares no identifier and its library has no file name. -/
theorem identity_eq_none_iff :
    (Declaration.ofSource source).declaredId?.or
        (Path.fileStem? (effectivePath (Declaration.ofSource source) libraryPath)) = none
      ↔ (∀ id, ¬source.Identifies id) ∧ Path.fileStem? (source.path libraryPath) = none := by
  rw [Option.or_eq_none_iff, declaredId?_eq_none_iff, effectivePath_ofSource]

/-- A source is an error if it is malformed. -/
theorem normalize_eq_error_iff :
    normalize locale source libraryPath entryPath = .error .noIdentity
      ↔ source.IsMalformed libraryPath := by
  have hmalformed : source.IsMalformed libraryPath ↔ source.isEmpty = false ∧
      (Declaration.ofSource source).declaredId?.or
        (Path.fileStem? (effectivePath (Declaration.ofSource source) libraryPath)) = none := by
    rw [identity_eq_none_iff]
    exact ⟨fun h => ⟨h.nonempty, h.unidentified, h.unlocated⟩, fun h => ⟨h.1, h.2.1, h.2.2⟩⟩
  rw [hmalformed]
  unfold normalize
  dsimp only
  cases source.isEmpty with
  | true => simp
  | false =>
    cases (Declaration.ofSource source).declaredId?.or
      (Path.fileStem? (effectivePath (Declaration.ofSource source) libraryPath)) with
    | none => simp
    | some id => cases (Declaration.ofSource source).isUseful <;> simp

/-- A source gives a record if it says something, is not malformed and is of use. -/
theorem exists_normalize_eq_iff :
    (∃ r, normalize locale source libraryPath entryPath = .ok (some r))
      ↔ source.isEmpty = false ∧ ¬source.IsMalformed libraryPath ∧ source.IsUseful := by
  constructor
  · rintro ⟨r, hr⟩
    have hwell : ¬source.IsMalformed libraryPath := by
      intro hmalformed
      have herror : normalize locale source libraryPath entryPath = .error .noIdentity :=
        normalize_eq_error_iff.2 hmalformed
      rw [hr] at herror
      cases herror
    obtain ⟨hnonempty, huseful, -⟩ := normalize_eq_ok_some_iff.1 hr
    exact ⟨hnonempty, hwell, (isUseful_iff source).1 huseful⟩
  · rintro ⟨hnonempty, hwell, huseful⟩
    have hidentity : (Declaration.ofSource source).declaredId?.or
        (Path.fileStem? (effectivePath (Declaration.ofSource source) libraryPath)) ≠ none := by
      intro hnone
      obtain ⟨hunidentified, hunlocated⟩ := identity_eq_none_iff.1 hnone
      exact hwell ⟨hnonempty, hunidentified, hunlocated⟩
    obtain ⟨id, hid⟩ := Option.ne_none_iff_exists'.1 hidentity
    exact ⟨_, normalize_eq_ok_some_iff.2
      ⟨hnonempty, (isUseful_iff source).2 huseful, id, hid, rfl⟩⟩

/-- A source gives nothing if it says nothing, or if it is not malformed and of no use. -/
theorem normalize_eq_ok_none_iff :
    normalize locale source libraryPath entryPath = .ok none
      ↔ source.isEmpty = true ∨ ¬source.IsMalformed libraryPath ∧ ¬source.IsUseful := by
  have herror : normalize locale source libraryPath entryPath = .error .noIdentity
      ↔ source.IsMalformed libraryPath := normalize_eq_error_iff
  have hrecord : (∃ r, normalize locale source libraryPath entryPath = .ok (some r))
      ↔ source.isEmpty = false ∧ ¬source.IsMalformed libraryPath ∧ source.IsUseful :=
    exists_normalize_eq_iff
  -- There are three outcomes, and the other two are known already.
  cases houtcome : normalize locale source libraryPath entryPath with
  | error e =>
    cases e
    have hmalformed := herror.1 houtcome
    refine iff_of_false nofun ?_
    rintro (hempty | ⟨hwell, -⟩)
    · exact absurd hempty (by simp [hmalformed.nonempty])
    · exact hwell hmalformed
  | ok found =>
    cases found with
    | some r =>
      obtain ⟨hnonempty, -, huseful⟩ := hrecord.1 ⟨r, houtcome⟩
      refine iff_of_false nofun ?_
      rintro (hempty | ⟨-, huseless⟩)
      · exact absurd hempty (by simp [hnonempty])
      · exact huseless huseful
    | none =>
      refine iff_of_true rfl ?_
      rw [houtcome] at herror hrecord
      have hwell : ¬source.IsMalformed libraryPath := fun h => nomatch herror.2 h
      cases hempty : source.isEmpty with
      | true => exact .inl rfl
      | false => exact .inr ⟨hwell, fun huseful => nomatch hrecord.2 ⟨hempty, hwell, huseful⟩⟩

/-- The identifier of a record is the one that its source declares, or else that of its library. -/
theorem identified_of_normalize {r : Record}
    (h : normalize locale source libraryPath entryPath = .ok (some r)) :
    source.Identifies r.id ∨ (∀ id, ¬source.Identifies id) ∧
      Path.fileStem? (source.path libraryPath) = some r.id := by
  obtain ⟨-, -, id, hidentity, rfl⟩ := normalize_eq_ok_some_iff.1 h
  rw [Declaration.id_record _ _ _ _ _ (Declaration.areFields_ofSource source)]
  rw [Option.or_eq_some_iff, declaredId?_eq_some_iff, declaredId?_eq_none_iff,
    effectivePath_ofSource] at hidentity
  exact hidentity

/-- A source that gives a record adds it between those of the sources before and after. -/
theorem normalizeAll_of_record {r : Record} (h : normalize locale source libraryPath "" = .ok (some r))
    (before after : List (Source × String)) :
    normalizeAll locale (before ++ (source, libraryPath) :: after)
      = normalizeAll locale before ++ r :: normalizeAll locale after := by
  simp only [normalizeAll, List.filterMap_append, List.filterMap_cons, h]

/-- A source that gives no record leaves no trace among several. -/
theorem normalizeAll_of_none (h : ∀ r, normalize locale source libraryPath "" ≠ .ok (some r))
    (before after : List (Source × String)) :
    normalizeAll locale (before ++ (source, libraryPath) :: after)
      = normalizeAll locale (before ++ after) := by
  simp only [normalizeAll, List.filterMap_append, List.filterMap_cons]
  cases houtcome : normalize locale source libraryPath "" with
  | error e => rfl
  | ok found =>
    cases found with
    | none => rfl
    | some r => exact absurd houtcome (h r)

/-- Every source, in whatever form and whatever path is given, has one of three outcomes. It is an error
exactly if it says something, declares no identifier, and its library has no file name to take one from. It
gives nothing exactly if it is empty, or not malformed and of no use. In all other cases it gives a record of
its library, with the declared identifier or else that of the library. Of several sources each gives its
record or none, in order, whatever the others do. -/
theorem normalize_outcome (locale : String) (source : Source) (libraryPath entryPath : String) :
    (normalize locale source libraryPath entryPath = .error .noIdentity
      ↔ source.IsMalformed libraryPath) ∧
    (normalize locale source libraryPath entryPath = .ok none
      ↔ source.isEmpty = true ∨ ¬source.IsMalformed libraryPath ∧ ¬source.IsUseful) ∧
    (source.isEmpty = false → ¬source.IsMalformed libraryPath → source.IsUseful →
      ∃ r, normalize locale source libraryPath entryPath = .ok (some r) ∧
        r.libraryPath = source.path libraryPath ∧
        (source.Identifies r.id ∨ (∀ id, ¬source.Identifies id) ∧
          Path.fileStem? (source.path libraryPath) = some r.id)) ∧
    normalizeAll locale [] = [] ∧
    (∀ r, normalize locale source libraryPath "" = .ok (some r) → ∀ before after,
      normalizeAll locale (before ++ (source, libraryPath) :: after)
        = normalizeAll locale before ++ r :: normalizeAll locale after) ∧
    ((∀ r, normalize locale source libraryPath "" ≠ .ok (some r)) → ∀ before after,
      normalizeAll locale (before ++ (source, libraryPath) :: after)
        = normalizeAll locale (before ++ after)) := by
  refine ⟨normalize_eq_error_iff, normalize_eq_ok_none_iff, fun hnonempty hwell huseful => ?_, rfl,
    fun r => normalizeAll_of_record, normalizeAll_of_none⟩
  obtain ⟨r, hr⟩ := exists_normalize_eq_iff.2 ⟨hnonempty, hwell, huseful⟩
  refine ⟨r, hr, ?_, identified_of_normalize hr⟩
  obtain ⟨id, rfl⟩ := exists_record_of_normalize hr
  exact effectivePath_ofSource source libraryPath

/-- A document whose identifier is `null`, whose services are blank and whose default is a word. -/
def oddSource : Source :=
  .structured (.ofList [("Plugin", .object [("Id", .null), ("ServiceTypes", .string " , "),
    ("EnabledByDefault", .string "TRUE")])])

/-- A document that declares a flag as its identifier and nothing of use. -/
def uselessSource : Source :=
  .legacy (.ofList [("X-PluginInfo-Name", .bool true), ("X-PluginInfo-EnabledByDefault", .string "on"),
    ("ServiceTypes", .bool true)])

/-- A document without an identifier is malformed where its library has no file name, and gives a plugin that
is called like the library elsewhere; a flag is an identifier but of no use. Of the three only one gives a
record. -/
theorem normalize_outcome_odd :
    normalize "" oddSource "/p/.." "" = .error .noIdentity ∧
      normalize "" uselessSource "" "" = .ok none ∧
      ∃ r, normalize "" oddSource "/p/.spy.so" "" = .ok (some r) ∧ r.id = ".spy" ∧
        normalizeAll "" [(oddSource, "/p/.."), (oddSource, "/p/.spy.so"), (uselessSource, "")] = [r] := by
  have hunidentified (id : String) : ¬oddSource.Identifies id := by
    have hnone : oddSource.declared? .id = none := by decide
    rintro ⟨hid, -⟩
    rw [hnone] at hid
    cases hid
  obtain ⟨herror, -, -, -, -, hskip⟩ := normalize_outcome "" oddSource "/p/.." ""
  obtain ⟨-, hnone, -, -, -, hskip'⟩ := normalize_outcome "" uselessSource "" ""
  obtain ⟨-, -, hexists, -, hadd, -⟩ := normalize_outcome "" oddSource "/p/.spy.so" ""
  have hmalformed := herror.2 ⟨by decide, hunidentified, by decide⟩
  have huseless : normalize "" uselessSource "" "" = .ok none := by
    refine hnone.2 (.inr ⟨fun h => h.unidentified "true" ⟨by decide, by decide⟩, ?_⟩)
    rintro (⟨items, hitems, -⟩ | ⟨b, hb⟩)
    · exact absurd hitems (by simp [show uselessSource.declared? .serviceTypes = none by decide])
    · exact absurd hb (by simp [show uselessSource.declared? .enabledByDefault = none by decide])
  obtain ⟨r, hr, -, hid⟩ := hexists (by decide) (fun h => absurd h.unlocated (by decide))
    (.inr ⟨true, by decide⟩)
  have hstem : r.id = ".spy" := by
    obtain ⟨-, hlocated⟩ := hid.resolve_left (hunidentified r.id)
    exact (Option.some.inj ((by decide : Path.fileStem? (oddSource.path "/p/.spy.so") = some ".spy").symm.trans
      hlocated)).symm
  refine ⟨hmalformed, huseless, r, hr, hstem, ?_⟩
  calc normalizeAll "" [(oddSource, "/p/.."), (oddSource, "/p/.spy.so"), (uselessSource, "")]
      = normalizeAll "" [(oddSource, "/p/.spy.so"), (uselessSource, "")] :=
        hskip (by simp [hmalformed]) [] _
    _ = r :: normalizeAll "" [(uselessSource, "")] := hadd r hr [] _
    _ = [r] := congrArg (r :: ·) (hskip' (by simp [huseless]) [] [])

end Record

end PluginCatalog
