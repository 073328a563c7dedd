import PluginCatalog.Metadata.Field
import PluginCatalog.Proofs.Text.Trimming

/-!
# Writing lists in one text

A text lists items (`ListsItems`) if it consists of fields with separators between them: each field is
an item with blanks around it, or nothing but blanks. Which separators are used, where blanks stand and
how many fields have no item does not matter, so a list has many such texts; but each text is split into
the items that it lists and into no others (`splitItems_eq_iff`).

All of this follows from one equation: a separator cuts a text into two whose items come one after the
other (`splitItems_append_cons`).
-/

namespace PluginCatalog.Metadata

/-- A text that can be an item of a list. -/
structure IsItem (item : String) : Prop where
  ne_empty : item ≠ ""
  trimmed : Text.trimmed item = item
  comma : ',' ∉ item.toList
  semicolon : ';' ∉ item.toList

/-- The texts that list some items in their order. -/
inductive ListsItems : List Char → List String → Prop where
  /-- A field without an item. -/
  | blank {gap : List Char} : (∀ c ∈ gap, Text.isBlank c = true) → ListsItems gap []
  /-- A field with an item. -/
  | item {before after : List Char} {item : String} :
      (∀ c ∈ before, Text.isBlank c = true) → (∀ c ∈ after, Text.isBlank c = true) → IsItem item →
      ListsItems (before ++ item.toList ++ after) [item]
  /-- Fields with a separator between them. -/
  | append {c : Char} {s t : List Char} {items items' : List String} :
      c = ',' ∨ c = ';' → ListsItems s items → ListsItems t items' →
      ListsItems (s ++ c :: t) (items ++ items')

/-- The separators are the comma and the semicolon. -/
theorem isItemSeparator_iff {c : Char} : isItemSeparator c = true ↔ c = ',' ∨ c = ';' := by
  simp [isItemSeparator]

/-- A blank separates no items. -/
theorem isItemSeparator_of_isBlank {c : Char} (h : Text.isBlank c = true) :
    isItemSeparator c = false := by
  rw [Bool.eq_false_iff, ne_eq, isItemSeparator_iff]
  rintro (rfl | rfl) <;> exact absurd h (by decide)

/-- There is no separator in an item. -/
theorem IsItem.isItemSeparator {item : String} (h : IsItem item) :
    ∀ c ∈ item.toList, isItemSeparator c = false := by
  intro c hc
  rw [Bool.eq_false_iff, ne_eq, isItemSeparator_iff]
  rintro (rfl | rfl)
  · exact h.comma hc
  · exact h.semicolon hc

/-! ## Fields -/

/-- A separator cuts a text into two whose items come one after the other. -/
theorem splitItems_append_cons {c : Char} (hc : isItemSeparator c = true) (s t : List Char) :
    splitItems (String.ofList (s ++ c :: t))
      = splitItems (String.ofList s) ++ splitItems (String.ofList t) := by
  simp only [splitItems, String.toList_ofList, Text.splitBy_append_cons hc, List.map_append,
    List.filter_append]

section Field

variable {s : List Char} (h : ∀ c ∈ s, isItemSeparator c = false)

include h

/-- A text without separators is one field, whose item is what stands between the blanks. -/
theorem splitItems_field :
    splitItems (String.ofList s)
      = if Text.trim s = [] then [] else [String.ofList (Text.trim s)] := by
  rw [splitItems, String.toList_ofList, Text.splitBy_of_forall h]
  by_cases htrim : Text.trim s = [] <;> simp [htrim]

/-- What stands between the blanks of a field is an item, if it is not empty. -/
theorem isItem_trim (hne : Text.trim s ≠ []) : IsItem (String.ofList (Text.trim s)) := by
  obtain ⟨before, after, -, -, hs⟩ := Text.exists_trim s
  have hseparator {c : Char} (hc : c = ',' ∨ c = ';') : c ∉ (String.ofList (Text.trim s)).toList := by
    rw [String.toList_ofList]
    intro hmem
    have hfalse := h c (by rw [hs]; simp [hmem])
    rw [isItemSeparator_iff.2 hc] at hfalse
    cases hfalse
  refine ⟨by simpa using hne, ?_, hseparator (.inl rfl), hseparator (.inr rfl)⟩
  rw [Text.trimmed, String.toList_ofList,
    Text.trim_eq_self (Text.head?_trim s) (Text.getLast?_trim s)]

/-- A text without separators lists the item that it has, if there is one. -/
theorem listsItems_field : ListsItems s (splitItems (String.ofList s)) := by
  rw [splitItems_field h]
  split
  · rename_i htrim
    exact .blank (Text.isBlank_of_trim_eq_nil htrim)
  · rename_i htrim
    obtain ⟨before, after, hbefore, hafter, hs⟩ := Text.exists_trim s
    have hitem := ListsItems.item hbefore hafter (isItem_trim h htrim)
    rwa [String.toList_ofList, ← hs] at hitem

end Field

/-! ## Texts -/

/-- Every text lists the items that it is split into. -/
theorem listsItems_splitItems (s : List Char) : ListsItems s (splitItems (String.ofList s)) := by
  -- By the first separator, if there is one: what follows it is shorter.
  induction hlength : s.length using Nat.strongRecOn generalizing s with
  | ind n ih =>
    have hfield : ∀ c ∈ s.takeWhile (!isItemSeparator ·), isItemSeparator c = false := fun c hc => by
      simpa using List.mem_takeWhile_imp hc
    have hsplit := List.takeWhile_append_dropWhile (p := (!isItemSeparator ·)) (l := s)
    have hhead := Text.head_dropWhile (p := (!isItemSeparator ·)) s
    cases hrest : s.dropWhile (!isItemSeparator ·) with
    | nil =>
      rw [hrest, List.append_nil] at hsplit
      rw [hsplit] at hfield
      exact listsItems_field hfield
    | cons c rest =>
      rw [hrest] at hsplit hhead
      have hc : isItemSeparator c = true := by simpa using hhead c rfl
      have hlt : rest.length < n := by
        rw [← hlength, ← hsplit, List.length_append, List.length_cons]
        omega
      rw [← hsplit, splitItems_append_cons hc]
      exact .append (isItemSeparator_iff.1 hc) (listsItems_field hfield) (ih _ hlt rest rfl)

namespace ListsItems

variable {s : List Char} {items : List String} (h : ListsItems s items)

include h

/-- A text is split into the items that it lists. -/
theorem splitItems_eq : splitItems (String.ofList s) = items := by
  induction h with
  | blank hgap =>
    rw [splitItems_field fun c hc => isItemSeparator_of_isBlank (hgap c hc), Text.trim,
      Text.trimStart_eq_nil hgap]
    rfl
  | item hbefore hafter hitem =>
    rename_i before after item
    have hfield : ∀ c ∈ before ++ item.toList ++ after, isItemSeparator c = false := by
      intro c hc
      rw [List.mem_append, List.mem_append] at hc
      rcases hc with (hc | hc) | hc
      · exact isItemSeparator_of_isBlank (hbefore c hc)
      · exact hitem.isItemSeparator c hc
      · exact isItemSeparator_of_isBlank (hafter c hc)
    have hne : Text.trim item.toList ≠ [] := by
      intro hnil
      have htrimmed := hitem.trimmed
      rw [Text.trimmed, hnil] at htrimmed
      exact hitem.ne_empty htrimmed.symm
    rw [splitItems_field hfield, Text.trim_blanks hbefore hafter, if_neg hne]
    exact congrArg ([·]) hitem.trimmed
  | append hc _ _ ihs iht =>
    rw [splitItems_append_cons (isItemSeparator_iff.2 hc), ihs, iht]

/-- What a text lists can be items. -/
theorem isItem : ∀ item ∈ items, IsItem item := by
  induction h with
  | blank hgap => exact List.forall_mem_nil _
  | item hbefore hafter hitem => exact List.forall_mem_singleton.2 hitem
  | append hc _ _ ihs iht => exact List.forall_mem_append.2 ⟨ihs, iht⟩

/-- Blanks before a text do not count. -/
theorem of_blanks {gap : List Char} (hgap : ∀ c ∈ gap, Text.isBlank c = true) :
    ListsItems (gap ++ s) items := by
  induction h with
  | blank hs => exact .blank (List.forall_mem_append.2 ⟨hgap, hs⟩)
  | item hbefore hafter hitem =>
    rw [← List.append_assoc, ← List.append_assoc]
    exact .item (List.forall_mem_append.2 ⟨hgap, hbefore⟩) hafter hitem
  | append hc _ ht ihs _ =>
    rw [← List.append_assoc]
    exact .append hc ihs ht

end ListsItems

/-- A text is split into the items that it lists and into no others. -/
theorem splitItems_eq_iff {s : String} {items : List String} :
    splitItems s = items ↔ ListsItems s.toList items := by
  have htext : String.ofList s.toList = s := String.ofList_toList
  constructor
  · rintro rfl
    have h := listsItems_splitItems s.toList
    rwa [htext] at h
  · intro h
    rw [← htext]
    exact h.splitItems_eq

/-- Items that are joined by a separator with blanks around it are listed. -/
theorem listsItems_separated {c : Char} {before after : List Char} (hc : c = ',' ∨ c = ';')
    (hbefore : ∀ c ∈ before, Text.isBlank c = true) (hafter : ∀ c ∈ after, Text.isBlank c = true)
    {items : List String} (h : ∀ item ∈ items, IsItem item) :
    ListsItems (Text.separated (before ++ c :: after) (items.map String.toList)) items := by
  induction items with
  | nil => exact .blank (List.forall_mem_nil _)
  | cons item items ih =>
    obtain ⟨hitem, hitems⟩ := List.forall_mem_cons.1 h
    have hnone : ∀ c ∈ ([] : List Char), Text.isBlank c = true := List.forall_mem_nil _
    cases items with
    | nil =>
      have hlast := ListsItems.item hnone hnone hitem
      rwa [List.nil_append, List.append_nil] at hlast
    | cons item' items =>
      have hfirst := ListsItems.item hnone hbefore hitem
      have hrest := (ih hitems).of_blanks hafter
      have hjoined := hfirst.append hc hrest
      simpa [Text.separated] using hjoined

/-- The items of a text can be items. They are those that the text lists, whatever separators, blanks
and fields without an item it has, and no others. They are found again if they are joined by a separator
with blanks around it. A separator between two texts puts the items of the one before those of the
other. -/
theorem splitItems_laws (s : String) :
    (∀ item ∈ splitItems s, IsItem item) ∧
      (∀ items, splitItems s = items ↔ ListsItems s.toList items) ∧
      ∀ c : Char, c = ',' ∨ c = ';' →
        (∀ before after, (∀ c ∈ before, Text.isBlank c = true) →
          (∀ c ∈ after, Text.isBlank c = true) →
          splitItems (String.ofList
            (Text.separated (before ++ c :: after) ((splitItems s).map String.toList)))
            = splitItems s) ∧
        ∀ t, splitItems (s ++ String.singleton c ++ t) = splitItems s ++ splitItems t := by
  have hitem : ∀ item ∈ splitItems s, IsItem item := (splitItems_eq_iff.1 rfl).isItem
  refine ⟨hitem, fun items => splitItems_eq_iff, fun c hc => ⟨fun before after hbefore hafter => ?_,
    fun t => ?_⟩⟩
  · exact (listsItems_separated hc hbefore hafter hitem).splitItems_eq
  · rw [splitItems_eq_iff]
    have hjoined := ListsItems.append hc (splitItems_eq_iff (s := s).1 rfl)
      (splitItems_eq_iff (s := t).1 rfl)
    simpa using hjoined

/-- Two items are found between separators of both kinds and beside a field without an item, and again
when they are joined. -/
theorem splitItems_laws_mixed :
    splitItems " a;, b" = ["a", "b"] ∧ splitItems "a ; b" = ["a", "b"] ∧
      splitItems " a;, b;c" = splitItems " a;, b" ++ splitItems "c" := by
  have hspace : ∀ c ∈ [' '], Text.isBlank c = true := List.forall_mem_singleton.2 (by decide)
  have hnone : ∀ c ∈ ([] : List Char), Text.isBlank c = true := List.forall_mem_nil _
  have ha : ListsItems ([' '] ++ "a".toList ++ []) ["a"] :=
    .item hspace hnone ⟨by decide, by decide, by decide, by decide⟩
  have hb : ListsItems ([' '] ++ "b".toList ++ []) ["b"] :=
    .item hspace hnone ⟨by decide, by decide, by decide, by decide⟩
  obtain ⟨-, hlists, hlaws⟩ := splitItems_laws " a;, b"
  have hitems := (hlists ["a", "b"]).2
    (.append (.inr rfl) ha (.append (.inl rfl) (.blank hnone) hb))
  obtain ⟨hjoined, happend⟩ := hlaws ';' (.inr rfl)
  have hagain := hjoined [' '] [' '] hspace hspace
  rw [hitems] at hagain
  exact ⟨hitems, hagain, happend "c"⟩

end PluginCatalog.Metadata
