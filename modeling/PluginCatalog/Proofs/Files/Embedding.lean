import PluginCatalog.Files.Library
import PluginCatalog.Proofs.Json.Delimiting
import PluginCatalog.Proofs.Text.Utf8

/-!
# Metadata among other bytes

What is before the marker and what is behind the metadata of a library does not count
(`Library.metadata_among_bytes`). The first byte of the marker stands nowhere else in it, so no marker
begins in a text and ends behind it where another one begins: the first marker is the one that was
written (`afterMarker?_append`). Behind it an object is read up to its brace, and the bytes after the
brace may be anything, even no text (`readPayload_encode_append`, `exists_of_readPayload`).
-/

namespace PluginCatalog

/-- The value of a form is an object only if the form is one; it holds each name once. -/
theorem Json.exists_of_ofTree?_object {t : Json.Tree} {members : List (String × Json)}
    (h : Json.ofTree? t = some (.object members)) :
    ∃ forms, t = .object forms ∧ ∃ d : Dict Json, members = d.toList := by
  unfold Json.ofTree? Json.maxDepth at h
  cases t with
  | object forms =>
    refine ⟨forms, rfl, ?_⟩
    obtain ⟨ms, -, he⟩ := Option.map_eq_some_iff.1 h
    exact ⟨Dict.ofList ms, (Json.object.inj he).symm⟩
  | null => cases h
  | bool b => cases h
  | number n =>
    obtain ⟨m, -, he⟩ := Option.map_eq_some_iff.1 h
    cases he
  | string s =>
    obtain ⟨m, -, he⟩ := Option.map_eq_some_iff.1 h
    cases he
  | array items =>
    obtain ⟨js, -, he⟩ := Option.map_eq_some_iff.1 h
    cases he

namespace Library

/-! ## The marker -/

/-- A marker does not begin inside another one. -/
theorem eq_nil_of_marker_eq {u v s t : List UInt8} (hu : u ≠ []) (hmarker : marker = u ++ v)
    (h : v ++ s = marker ++ t) : v = [] := by
  cases v with
  | nil => rfl
  | cons b v =>
    -- The byte that would begin both stands behind the first one.
    obtain ⟨a, u, rfl⟩ := List.exists_cons_of_ne_nil hu
    have hb : b = 80 := by
      have hhead := congrArg List.head? h
      simpa [List.head?_append, show marker.head? = some 80 from by decide +kernel] using hhead
    have hmem : b ∈ marker.tail := by
      rw [hmarker]
      simp
    have honce : 80 ∉ marker.tail := by decide +kernel
    rw [hb] at hmem
    exact absurd hmem honce

/-- The marker at the front is the first one. -/
theorem afterMarker?_marker_append (payload : List UInt8) :
    afterMarker? (marker ++ payload) = some payload := by
  have hne : marker ≠ [] := by decide
  obtain ⟨b, rest, hcons⟩ := List.exists_cons_of_ne_nil hne
  have hfront : marker.isPrefixOf (marker ++ payload) = true :=
    List.isPrefixOf_iff_prefix.2 (List.prefix_append marker payload)
  have hdrop : (marker ++ payload).drop marker.length = payload := List.drop_left
  generalize marker ++ payload = bytes at *
  cases bytes with
  | nil => exact absurd (List.prefix_nil.1 (List.isPrefixOf_iff_prefix.1 hfront)) hne
  | cons c bytes => rw [afterMarker?, if_pos hfront, hdrop]

/-- A byte where no marker begins is passed over. -/
theorem afterMarker?_cons {b : UInt8} {bytes : List UInt8} (h : ¬marker <+: b :: bytes) :
    afterMarker? (b :: bytes) = afterMarker? bytes := by
  rw [afterMarker?, if_neg (by rwa [List.isPrefixOf_iff_prefix])]

/-- What follows the first marker is found. -/
theorem afterMarker?_append {before : List UInt8} (h : ¬marker <:+: before)
    (payload : List UInt8) : afterMarker? (before ++ (marker ++ payload)) = some payload := by
  induction before with
  | nil => exact afterMarker?_marker_append payload
  | cons b before ih =>
    have hrest : ¬marker <:+: before := fun hin => h (hin.trans (List.suffix_cons b before).isInfix)
    have hfront : ¬marker <+: b :: (before ++ (marker ++ payload)) := by
      rintro ⟨t, ht⟩
      rw [← List.cons_append] at ht
      rcases List.append_eq_append_iff.1 ht with ⟨v, hv, -⟩ | ⟨v, hv, hover⟩
      · exact h ⟨[], v, by rw [hv, List.nil_append]⟩
      · -- A marker that ends behind the text ends with it.
        obtain rfl := eq_nil_of_marker_eq (List.cons_ne_nil b before) hv hover.symm
        rw [List.append_nil] at hv
        exact h (hv ▸ List.infix_rfl)
    rw [List.cons_append, afterMarker?_cons hfront, ih hrest]

/-- Without a marker nothing follows one. -/
theorem afterMarker?_eq_none {bytes : List UInt8} (h : ¬marker <:+: bytes) :
    afterMarker? bytes = none := by
  induction bytes with
  | nil => rfl
  | cons b bytes ih =>
    have hrest : ¬marker <:+: bytes := fun hin => h (hin.trans (List.suffix_cons b bytes).isInfix)
    rw [afterMarker?_cons fun hpre => h hpre.isInfix, ih hrest]

/-! ## The value behind the marker -/

/-- An object is read before any bytes. -/
theorem readPayload_encode_append {j : String} {members : List (String × Json)}
    (h : Json.ofText? j = some (.object members)) (trailing : List UInt8) :
    readPayload (Utf8.leadingText (Utf8.encode j.toList ++ trailing)) = .value (.object members) := by
  obtain ⟨t, htree, hvalue⟩ := Option.bind_eq_some_iff.1 h
  obtain ⟨forms, rfl, -⟩ := Json.exists_of_ofTree?_object hvalue
  obtain ⟨⟨t, rest⟩, hread, hend⟩ := Option.bind_eq_some_iff.1 htree
  have ht : t = .object forms := by
    dsimp only at hend
    split at hend
    · exact Option.some.inj hend
    · cases hend
  subst ht
  obtain ⟨u, hj, hafter⟩ := Json.Tree.read?_object hread
  rw [Utf8.leadingText_encode_append, hj, List.append_assoc, List.cons_append]
  unfold readPayload
  have hspace : ¬(u ++ '}' :: (rest ++ Utf8.leadingText trailing)).all Json.isSpace = true := by
    simp [Json.isSpace]
  rw [if_neg hspace, hafter]
  dsimp only
  rw [hvalue]
  rfl

/-- An object that is read is written at the front of the bytes. -/
theorem exists_of_readPayload {payload : List UInt8} {members : List (String × Json)}
    (h : readPayload (Utf8.leadingText payload) = .value (.object members)) :
    ∃ j trailing, Json.ofText? j = some (.object members) ∧
      payload = Utf8.encode j.toList ++ trailing := by
  unfold readPayload at h
  split at h
  · cases h
  split at h
  · cases h
  rename_i t rest hread
  split at h
  · cases h
  rename_i j hvalue
  split at h
  · cases h
    obtain ⟨forms, rfl, -⟩ := Json.exists_of_ofTree?_object hvalue
    obtain ⟨u, htext, hafter⟩ := Json.Tree.read?_object hread
    obtain ⟨trailing, hpayload⟩ := Utf8.eq_encode_append_of_leadingText htext (by decide)
    refine ⟨String.ofList (u ++ ['}']), trailing, ?_, by rwa [String.toList_ofList]⟩
    rw [Json.ofText?, String.toList_ofList, Json.Tree.ofText?, hafter]
    exact hvalue
  · cases h

/-- The properties in an object are the values of its members. -/
theorem get?_propertiesOf {j : String} {members : List (String × Json)}
    (h : Json.ofText? j = some (.object members)) (key : String) :
    (propertiesOf members).get? key = (Dict.lookup key members).bind Value.ofJson? := by
  obtain ⟨t, -, hvalue⟩ := Option.bind_eq_some_iff.1 h
  obtain ⟨-, -, d, rfl⟩ := Json.exists_of_ofTree?_object hvalue
  rw [propertiesOf, Dict.get?_filterMap, Dict.ofList_toList, Dict.get?]

/-! ## The metadata of a library -/

/-- A library without the marker has no metadata. One whose first marker is followed by the text of a
JSON object has exactly the values of its members, without those that are `null`, whatever is before
the marker and after the object. With anything else after its first marker a library counts as one
without metadata. -/
theorem metadata_among_bytes {t : FileTree} {path : String} {bytes : List UInt8}
    (hread : t.read path = .ok bytes) :
    (¬marker <:+: bytes → readMetadata t path = .ok none ∧ Loader.embedded t path = none) ∧
      ∀ before payload, ¬marker <:+: before → bytes = before ++ marker ++ payload →
        (∀ j members trailing, Json.ofText? j = some (.object members) →
          payload = Utf8.encode j.toList ++ trailing →
          ∃ p, readMetadata t path = .ok (some p) ∧ Loader.embedded t path = some p ∧
            ∀ key, p.get? key = (Dict.lookup key members).bind Value.ofJson?) ∧
        ((∀ j members trailing, Json.ofText? j = some (.object members) →
          payload ≠ Utf8.encode j.toList ++ trailing) → Loader.embedded t path = none) := by
  have hmetadata : readMetadata t path = metadataIn path bytes := by
    rw [readMetadata, hread]
  refine ⟨fun hnone => ?_, ?_⟩
  · have hin : readMetadata t path = .ok none := by
      rw [hmetadata, metadataIn, afterMarker?_eq_none hnone]
    exact ⟨hin, by rw [Loader.embedded, hin]⟩
  · rintro before payload hbefore rfl
    have hafter : afterMarker? (before ++ marker ++ payload) = some payload := by
      rw [List.append_assoc, afterMarker?_append hbefore]
    refine ⟨?_, fun hno => ?_⟩
    · rintro j members trailing hj rfl
      have hin : readMetadata t path = .ok (some (propertiesOf members)) := by
        rw [hmetadata, metadataIn, hafter]
        dsimp only
        rw [readPayload_encode_append hj]
      exact ⟨propertiesOf members, hin, by rw [Loader.embedded, hin], get?_propertiesOf hj⟩
    · -- What the reader takes for a value begins the payload, so only an object would contradict `hno`.
      rw [Loader.embedded, hmetadata, metadataIn, hafter]
      dsimp only
      cases hpayload : readPayload (Utf8.leadingText payload) with
      | nothing => rfl
      | undecodable => rfl
      | value j =>
        cases j with
        | object members =>
          obtain ⟨j, trailing, hj, htext⟩ := exists_of_readPayload hpayload
          exact absurd htext (hno j members trailing hj)
        | _ => rfl

/-- The marker after the beginning of another one, and behind the object bytes that are no text and a
second marker with an object of its own. -/
theorem metadata_among_bytes_partial :
    let before := Utf8.encode "ELF PLUGIN_META".toList
    let j := " \x7b\"X-Plugin-Id\": \"spy\", \"Hint\": null, \"Weight\": 2e0\x7d"
    let trailing := [0x00, 0xFF] ++ marker ++ Utf8.encode "\x7b\x7d".toList
    let bytes := before ++ marker ++ (Utf8.encode j.toList ++ trailing)
    let t : FileTree := ⟨[(["a.so"], .file bytes)], [], by decide⟩
    t.read "a.so" = .ok bytes ∧ ¬marker <:+: before ∧
      ∃ members p, Json.ofText? j = some (.object members) ∧
        readMetadata t "a.so" = .ok (some p) ∧ Loader.embedded t "a.so" = some p ∧
        (∀ key, p.get? key = (Dict.lookup key members).bind Value.ofJson?) ∧
        p = .ofList [("X-Plugin-Id", .text "spy"), ("Weight", .number (.ofInt 2))] := by
  intro before j trailing bytes t
  have hread : t.read "a.so" = .ok bytes := by decide +kernel
  have hbefore : ¬marker <:+: before := by decide +kernel
  obtain ⟨members, hj⟩ : ∃ members, Json.ofText? j = some (.object members) := by
    have hobject : (Json.ofText? j).any Json.isObject = true := by decide +kernel
    revert hobject
    rcases Json.ofText? j with _ | v
    · nofun
    · cases v with
      | object members => exact fun _ => ⟨members, rfl⟩
      | _ => nofun
  obtain ⟨p, hp, hembedded, hget⟩ :=
    ((metadata_among_bytes hread).2 before _ hbefore rfl).1 j members trailing hj rfl
  have hspy : Loader.embedded t "a.so"
      = some (.ofList [("X-Plugin-Id", .text "spy"), ("Weight", .number (.ofInt 2))]) := by
    decide +kernel
  exact ⟨hread, hbefore, members, p, hj, hp, hembedded, hget,
    Option.some.inj (hembedded.symm.trans hspy)⟩

end Library

end PluginCatalog
