import PluginCatalog.Metadata.DesktopEntry
import PluginCatalog.Proofs.Text.Trimming

/-!
# Laying out desktop entries

However a list of keys and values is laid out as a desktop entry, it is read back, and the last value of
a key counts (`get?_parse_of_lists`). A layout (`Lists`) has the entries in their order below the headers
of the group, with blanks around everything, and between them comments, lines that are neither entries
nor headers, and whole groups of other names.

A header makes the reader forget in which group it was, and entries are only ever put over those before.
So a text that begins with a header is read after another text as it is alone (`parse_append`).
-/

namespace PluginCatalog.Metadata.DesktopEntry

/-! ## Layouts -/

/-- Nothing but blanks. -/
def IsGap (s : List Char) : Prop := ∀ c ∈ s, Text.isBlank c = true

/-- A line that begins the group with a name. -/
def IsHeader (name line : List Char) : Prop :=
  ∃ before after, IsGap before ∧ IsGap after ∧ line = before ++ '[' :: (name ++ ']' :: after)

/-- A line that says nothing anywhere: an empty one or a comment. -/
def IsSkipped (line : List Char) : Prop :=
  IsGap line ∨ ∃ before comment, IsGap before ∧ line = before ++ '#' :: comment

/-- A text that can be the key of an entry. -/
structure IsKey (key : List Char) : Prop where
  trimmed : Text.trim key = key
  sign : '=' ∉ key
  /-- It begins neither a comment nor a header. -/
  head : ∀ c ∈ key.head?, c ≠ '#' ∧ c ≠ '['

/-- A line with a key and a value. -/
def IsEntry (key value line : List Char) : Prop :=
  ∃ g₁ g₂ g₃ g₄, IsGap g₁ ∧ IsGap g₂ ∧ IsGap g₃ ∧ IsGap g₄ ∧
    line = (g₁ ++ key ++ g₂) ++ '=' :: (g₃ ++ value ++ g₄)

/-- The entries that some lines list, in order, if the lines begin inside or outside of the group. -/
inductive Lists : Bool → List (String × String) → List (List Char) → Prop
  | done {inGroup : Bool} : Lists inGroup [] []
  | entry {key value : String} {line : List Char} {entries : List (String × String)}
      {lines : List (List Char)} :
      IsKey key.toList → Text.trim value.toList = value.toList →
      IsEntry key.toList value.toList line → Lists true entries lines →
      Lists true ((key, value) :: entries) (line :: lines)
  | skipped {inGroup : Bool} {line : List Char} {entries : List (String × String)}
      {lines : List (List Char)} :
      IsSkipped line → Lists inGroup entries lines → Lists inGroup entries (line :: lines)
  /-- A line that is neither an entry nor a header. -/
  | plain {inGroup : Bool} {line : List Char} {entries : List (String × String)}
      {lines : List (List Char)} :
      '=' ∉ line → (∀ name, ¬IsHeader name line) → Lists inGroup entries lines →
      Lists inGroup entries (line :: lines)
  /-- Whatever is outside of the group, up to the next header. -/
  | outside {line : List Char} {entries : List (String × String)} {lines : List (List Char)} :
      (∀ name, ¬IsHeader name line) → Lists false entries lines → Lists false entries (line :: lines)
  | header {inGroup : Bool} {line : List Char} {entries : List (String × String)}
      {lines : List (List Char)} :
      IsHeader groupName line → Lists true entries lines → Lists inGroup entries (line :: lines)
  | otherHeader {inGroup : Bool} {name line : List Char} {entries : List (String × String)}
      {lines : List (List Char)} :
      name ≠ groupName → IsHeader name line → Lists false entries lines →
      Lists inGroup entries (line :: lines)

/-- The text of some lines, which end with a line feed, with a carriage return before it or not; the last
one need not end. -/
inductive IsText : List (List Char) → List Char → Prop
  | nil : IsText [] []
  | last {line : List Char} : '\n' ∉ line → IsText [line] line
  | cons {line ending text : List Char} {lines : List (List Char)} :
      '\n' ∉ line → ending = ['\n'] ∨ ending = ['\r', '\n'] → IsText lines text →
      IsText (line :: lines) (line ++ ending ++ text)

/-- The first line of a text that says anything begins a group. -/
def BeginsGroup (text : List Char) : Prop :=
  ∃ before name header after, (∀ line ∈ before, IsSkipped line) ∧ IsHeader name header ∧
    IsText (before ++ header :: after) text

/-! ## Kinds of lines -/

/-- The name of a group stands between the brackets of its header. -/
theorem groupOf?_eq_some_iff {line name : List Char} :
    groupOf? line = some name ↔ line = '[' :: (name ++ [']']) := by
  unfold groupOf?
  split
  · rename_i rest
    rw [List.cons.injEq]
    constructor
    · intro h
      split at h
      · rename_i hlast
        obtain ⟨front, rfl⟩ := List.getLast?_eq_some_iff.1 hlast
        rw [List.dropLast_concat] at h
        cases h
        exact ⟨rfl, rfl⟩
      · cases h
    · rintro ⟨-, rfl⟩
      simp
  · rename_i hne
    exact ⟨nofun, fun h => absurd h (hne _)⟩

/-- A line is a header if it is one without the blanks around it. -/
theorem isHeader_iff {name line : List Char} :
    IsHeader name line ↔ groupOf? (Text.trim line) = some name := by
  have hopen : Text.isBlank '[' = false := by decide
  have hclose : Text.isBlank ']' = false := by decide
  rw [groupOf?_eq_some_iff]
  constructor
  · rintro ⟨before, after, hbefore, hafter, rfl⟩
    rw [Text.trim_append_cons hopen, Text.trimStart_eq_nil hbefore, Text.trimEnd_append_cons hclose,
      Text.trimEnd_eq_nil hafter, List.nil_append]
  · intro h
    obtain ⟨before, after, hbefore, hafter, hline⟩ := Text.exists_trim line
    refine ⟨before, after, hbefore, hafter, ?_⟩
    rw [hline, h]
    simp

/-- A line is no header if there is no name in it. -/
theorem not_isHeader_iff {line : List Char} :
    (∀ name, ¬IsHeader name line) ↔ groupOf? (Text.trim line) = none := by
  simp only [isHeader_iff, Option.eq_none_iff_forall_ne_some, ne_eq]

/-- There is no entry without a sign between key and value. -/
theorem entryOf?_eq_none {line : List Char} (h : '=' ∉ line) : entryOf? line = none := by
  have hdrop : line.dropWhile (· ≠ '=') = [] :=
    List.dropWhile_eq_nil_iff.2 fun c hc => by simpa using ne_of_mem_of_not_mem hc h
  rw [entryOf?, hdrop]

/-- The first sign is the one between key and value. -/
theorem entryOf?_append_cons {key : List Char} (h : '=' ∉ key) (value : List Char) :
    entryOf? (key ++ '=' :: value)
      = some (String.ofList (Text.trim key), .text (String.ofList (Text.trim value))) := by
  have hkey : ∀ c ∈ key, decide (c ≠ '=') = true := fun c hc => by
    simpa using ne_of_mem_of_not_mem hc h
  have hdrop : (key ++ '=' :: value).dropWhile (· ≠ '=') = '=' :: value := by
    rw [List.dropWhile_append_of_pos hkey, List.dropWhile_cons_of_neg (by simp)]
  have htake : (key ++ '=' :: value).takeWhile (· ≠ '=') = key := by
    rw [List.takeWhile_append_of_pos hkey, List.takeWhile_cons_of_neg (by simp), List.append_nil]
  rw [entryOf?, hdrop, htake]

/-- There may be nothing. -/
theorem isGap_nil : IsGap [] := List.forall_mem_nil _

/-- A blank is a gap. -/
theorem isGap_singleton {c : Char} (h : Text.isBlank c = true) : IsGap [c] := by
  simpa [IsGap] using h

/-- There is no sign in a gap. -/
theorem IsGap.sign_notMem {gap : List Char} (h : IsGap gap) : '=' ∉ gap :=
  fun hmem => absurd (h '=' hmem) (by decide)

/-- Before the sign a line has its key, after the blanks that it begins with. -/
theorem IsKey.trimStart_eq {key before after : List Char} (h : IsKey key) (hbefore : IsGap before)
    (hafter : IsGap after) :
    Text.trimStart (before ++ key ++ after) = if key = [] then [] else key ++ after := by
  rw [List.append_assoc, Text.trimStart_append hbefore]
  cases key with
  | nil => exact Text.trimStart_eq_nil hafter
  | cons c key =>
    have hc : Text.isBlank c = false :=
      Text.head?_trim (c :: key) c (by rw [h.trimmed]; rfl)
    exact Text.trimStart_append_cons hc [] (key ++ after)

/-- Without the blanks around it the line of an entry begins with the key or, if that is empty, with the
sign: neither a comment nor a header. -/
theorem IsKey.exists_trim_eq {key value line : List Char} (hkey : IsKey key) (h : IsEntry key value line) :
    ∃ c rest, Text.trim line = c :: rest ∧ c ≠ '#' ∧ c ≠ '[' := by
  obtain ⟨g₁, g₂, g₃, g₄, h₁, h₂, -, -, rfl⟩ := h
  rw [Text.trim_append_cons (by decide), hkey.trimStart_eq h₁ h₂]
  cases key with
  | nil => exact ⟨'=', _, rfl, by decide, by decide⟩
  | cons c key => exact ⟨c, _, rfl, hkey.head c rfl⟩

/-- The line of an entry has its key and its value. -/
theorem IsKey.entryOf?_trim {key value : String} {line : List Char} (hkey : IsKey key.toList)
    (hvalue : Text.trim value.toList = value.toList) (h : IsEntry key.toList value.toList line) :
    entryOf? (Text.trim line) = some (key, .text value) := by
  obtain ⟨g₁, g₂, g₃, g₄, h₁, h₂, h₃, h₄, rfl⟩ := h
  have hsign : '=' ∉ Text.trimStart (g₁ ++ key.toList ++ g₂) := by
    rw [hkey.trimStart_eq h₁ h₂]
    split
    · exact List.not_mem_nil
    · rw [List.mem_append, not_or]
      exact ⟨hkey.sign, h₂.sign_notMem⟩
  rw [Text.trim_append_cons (by decide), entryOf?_append_cons hsign, Text.trim_trimStart,
    Text.trim_trimEnd, Text.trim_blanks h₁ h₂, Text.trim_blanks h₃ h₄, hkey.trimmed, hvalue,
    String.ofList_toList, String.ofList_toList]

/-! ## What a line does -/

variable {line : List Char} (s : State)

/-- An empty line and a comment change nothing. -/
theorem take_of_isSkipped (h : IsSkipped line) : s.take (Text.trim line) = s := by
  have hsharp : Text.isBlank '#' = false := by decide
  rcases h with h | ⟨before, comment, hbefore, rfl⟩
  · rw [Text.trim, Text.trimStart_eq_nil h]
    rfl
  · rw [Text.trim_append_cons hsharp, Text.trimStart_eq_nil hbefore]
    rfl

/-- A header says whether the lines that follow belong to the group. -/
theorem take_of_isHeader {name : List Char} (h : IsHeader name line) :
    s.take (Text.trim line) = ⟨name = groupName, s.entries⟩ := by
  have hgroup := isHeader_iff.1 h
  have hline := groupOf?_eq_some_iff.1 hgroup
  unfold State.take
  rw [hgroup, hline, if_neg (by simp)]

/-- No other line has an effect outside of the group. -/
theorem take_of_outside (h : ∀ name, ¬IsHeader name line) (hs : s.inGroup = false) :
    s.take (Text.trim line) = s := by
  unfold State.take
  rw [not_isHeader_iff.1 h, hs]
  split <;> rfl

/-- A line without a sign between key and value has no effect either. -/
theorem take_of_plain (h : ∀ name, ¬IsHeader name line) (hsign : '=' ∉ line) :
    s.take (Text.trim line) = s := by
  have htrim : '=' ∉ Text.trim line := by
    obtain ⟨before, after, -, -, hline⟩ := Text.exists_trim line
    rw [hline] at hsign
    simp only [List.mem_append, not_or] at hsign
    exact hsign.1.2
  unfold State.take
  rw [not_isHeader_iff.1 h, entryOf?_eq_none htrim]
  split
  · rfl
  · dsimp only
    split <;> rfl

/-- An entry of the group is put over those before. -/
theorem take_of_isEntry {key value : String} (hkey : IsKey key.toList)
    (hvalue : Text.trim value.toList = value.toList) (h : IsEntry key.toList value.toList line)
    (hs : s.inGroup = true) :
    s.take (Text.trim line) = ⟨true, s.entries.insert key (.text value)⟩ := by
  obtain ⟨c, rest, hline, hsharp, hopen⟩ := hkey.exists_trim_eq h
  have hplain : groupOf? (Text.trim line) = none := by
    rw [Option.eq_none_iff_forall_ne_some]
    intro name hname
    rw [groupOf?_eq_some_iff, hline] at hname
    exact hopen (List.cons.inj hname).1
  have hentry := hkey.entryOf?_trim hvalue h
  unfold State.take
  rw [hplain, hentry, hs, hline, if_neg (by simpa using hsharp)]
  rfl

/-! ## What a text does -/

/-- Entries before those of a state. -/
def State.over (base : Properties) (s : State) : State := ⟨s.inGroup, base.overlay s.entries⟩

/-- A line has the same effect whatever entries there were before. -/
theorem take_over (base : Properties) (line : List Char) :
    (s.over base).take line = (s.take line).over base := by
  have hinsert (key : String) (value : Value) :
      (base.overlay s.entries).insert key value = base.overlay (s.entries.insert key value) := by
    refine Dict.ext_get? fun k => ?_
    rw [Dict.get?_insert, Dict.get?_overlay, Dict.get?_overlay, Dict.get?_insert]
    split <;> rfl
  unfold State.take State.over
  dsimp only
  split
  · rfl
  · cases groupOf? line with
    | some name => rfl
    | none =>
      dsimp only
      split
      · cases entryOf? line with
        | none => rfl
        | some e => exact congrArg (State.mk s.inGroup) (hinsert e.1 e.2)
      · rfl

/-- So have several lines. -/
theorem foldl_take_over (base : Properties) (lines : List (List Char)) :
    lines.foldl State.take (s.over base) = (lines.foldl State.take s).over base := by
  induction lines generalizing s with
  | nil => rfl
  | cons line lines ih => rw [List.foldl_cons, List.foldl_cons, take_over, ih]

/-- The entries that some lines list are put over those before, in order. -/
theorem entries_of_lists {inGroup : Bool} {entries : List (String × String)}
    {lines : List (List Char)} (h : Lists inGroup entries lines) (base : Properties) :
    ((lines.map Text.trim).foldl State.take ⟨inGroup, base⟩).entries
      = (entries.map fun e => (e.1, Value.text e.2)).foldl (fun d e => d.insert e.1 e.2) base := by
  induction h generalizing base with
  | done => rfl
  | entry hkey hvalue hline _ ih =>
    rw [List.map_cons, List.foldl_cons, take_of_isEntry _ hkey hvalue hline rfl, ih]
    rfl
  | skipped hline _ ih => rw [List.map_cons, List.foldl_cons, take_of_isSkipped _ hline, ih]
  | plain hsign hline _ ih => rw [List.map_cons, List.foldl_cons, take_of_plain _ hline hsign, ih]
  | outside hline _ ih => rw [List.map_cons, List.foldl_cons, take_of_outside _ hline rfl, ih]
  | header hline _ ih =>
    rw [List.map_cons, List.foldl_cons, take_of_isHeader _ hline, decide_eq_true rfl, ih]
  | otherHeader hname hline _ ih =>
    rw [List.map_cons, List.foldl_cons, take_of_isHeader _ hline, decide_eq_false hname, ih]

/-- The lines of a text are taken one after another, however they end. -/
theorem foldl_take_of_isText {lines : List (List Char)} {text : List Char} (h : IsText lines text) :
    ((Text.splitBy (· = '\n') text).map Text.trim).foldl State.take s
      = (lines.map Text.trim).foldl State.take s := by
  have hpiece {line : List Char} (hline : '\n' ∉ line) : Text.splitBy (· = '\n') line = [line] :=
    Text.splitBy_of_forall fun c hc => by simpa using ne_of_mem_of_not_mem hc hline
  have hbreak : decide ('\n' = '\n') = true := by decide
  induction h generalizing s with
  | nil => rfl
  | last hline => rw [hpiece hline]
  | @cons line ending text lines hline hending _ ih =>
    -- A carriage return is a blank at the end of the line.
    obtain ⟨gap, hgap, hline', rfl⟩ : ∃ gap, IsGap gap ∧ '\n' ∉ gap ∧ ending = gap ++ ['\n'] := by
      rcases hending with rfl | rfl
      · exact ⟨[], isGap_nil, List.not_mem_nil, rfl⟩
      · exact ⟨['\r'], isGap_singleton (by decide), by decide, rfl⟩
    have htext : line ++ (gap ++ ['\n']) ++ text = (line ++ gap) ++ '\n' :: text := by simp
    have htrim : Text.trim (line ++ gap) = Text.trim line := by
      simpa using Text.trim_blanks (List.forall_mem_nil _) hgap line
    rw [htext, Text.splitBy_append_cons hbreak, hpiece (by simp [hline, hline']), List.singleton_append,
      List.map_cons, List.foldl_cons, htrim, ih, List.map_cons, List.foldl_cons]

/-- A text that lists entries is read as them, and the last value of a key counts. -/
theorem get?_parse_of_lists {entries : List (String × String)} {lines : List (List Char)} {text : String}
    (h : Lists false entries lines) (htext : IsText lines text.toList) (key : String) :
    (parse text).get? key = (Dict.lookup key entries.reverse).map .text := by
  rw [parse, foldl_take_of_isText _ htext, entries_of_lists h, Dict.get?_foldl_insert,
    ← List.map_reverse, Dict.lookup_map_value, Dict.get?_empty, Option.or_none]

/-- Lines that say nothing change nothing. -/
theorem foldl_take_of_isSkipped {lines : List (List Char)} (h : ∀ line ∈ lines, IsSkipped line) :
    (lines.map Text.trim).foldl State.take s = s := by
  induction lines with
  | nil => rfl
  | cons line lines ih =>
    rw [List.map_cons, List.foldl_cons, take_of_isSkipped s (h line List.mem_cons_self)]
    exact ih fun line' hline' => h line' (List.mem_cons_of_mem line hline')

/-- A text that begins a group puts its own entries over those before, whatever the group before. -/
theorem entries_of_beginsGroup {text : List Char} (h : BeginsGroup text) :
    (((Text.splitBy (· = '\n') text).map Text.trim).foldl State.take s).entries
      = s.entries.overlay
          (((Text.splitBy (· = '\n') text).map Text.trim).foldl State.take ⟨false, .empty⟩).entries := by
  obtain ⟨before, name, header, after, hbefore, hheader, htext⟩ := h
  have hrun (s : State) : ((Text.splitBy (· = '\n') text).map Text.trim).foldl State.take s
      = (after.map Text.trim).foldl State.take (State.over s.entries ⟨name = groupName, .empty⟩) := by
    rw [foldl_take_of_isText _ htext, List.map_append, List.foldl_append,
      foldl_take_of_isSkipped _ hbefore, List.map_cons, List.foldl_cons, take_of_isHeader _ hheader]
    rfl
  have hempty : State.over .empty ⟨name = groupName, .empty⟩ = ⟨name = groupName, .empty⟩ := rfl
  rw [hrun s, hrun ⟨false, .empty⟩, foldl_take_over, hempty]
  rfl

/-- After a line break a text that begins a group is read as it is alone. -/
theorem parse_append {a b : String} (ha : a.toList.getLast? = some '\n')
    (hb : BeginsGroup b.toList) : parse (a ++ b) = (parse a).overlay (parse b) := by
  obtain ⟨front, hfront⟩ := List.getLast?_eq_some_iff.1 ha
  have hbreak : decide ('\n' = '\n') = true := by decide
  -- Behind the last line break nothing follows in the first text, and the second one in both.
  have hwhole : (a ++ b).toList = front ++ '\n' :: b.toList := by
    rw [String.toList_append, hfront, List.append_assoc, List.singleton_append]
  have hparse : parse a
      = (((Text.splitBy (· = '\n') front).map Text.trim).foldl State.take ⟨false, .empty⟩).entries := by
    rw [parse, hfront, Text.splitBy_append_cons hbreak, List.map_append, List.foldl_append]
    rfl
  rw [parse, hwhole, Text.splitBy_append_cons hbreak, List.map_append, List.foldl_append,
    entries_of_beginsGroup _ hb, ← hparse]
  rfl

/-- Entries that are laid out in lines are read from the text, and the last value of a key counts. A text
that begins a group is read after another text as it is alone, and its entries are put over the others. -/
theorem parse_layout :
    (∀ (entries : List (String × String)) (lines : List (List Char)) (text : String),
      Lists false entries lines → IsText lines text.toList →
      ∀ key, (parse text).get? key = (Dict.lookup key entries.reverse).map .text) ∧
    ∀ a b : String, a.toList.getLast? = some '\n' → BeginsGroup b.toList →
      parse (a ++ b) = (parse a).overlay (parse b) :=
  ⟨fun _ _ _ h htext => get?_parse_of_lists h htext, fun _ _ ha hb => parse_append ha hb⟩

/-- A key with two values, of which the last one looks like much else, after another group and between
lines that are no entries; and two texts that both begin the group. -/
theorem parse_layout_groups :
    let entries := [("Name", "Spy"), ("Name", "[A=B]#")]
    let lines := ["[Other]", "Name=lost", " [Desktop Entry]\t", "Name = Spy", " # Name=x", "[Name",
      "Name\u00a0=\u3000[A=B]#"].map String.toList
    let text := "[Other]\nName=lost\r\n [Desktop Entry]\t\nName = Spy\r\n"
      ++ " # Name=x\n[Name\nName\u00a0=\u3000[A=B]#"
    let a := "[Desktop Entry]\nName=Ada\nIcon=x\n"
    let b := "# again\n\n[Desktop Entry]\nName=Spy"
    (Lists false entries lines ∧ IsText lines text.toList ∧
      (parse text).get? "Name" = some (.text "[A=B]#") ∧ (parse text).get? "Icon" = none) ∧
    a.toList.getLast? = some '\n' ∧ BeginsGroup b.toList ∧
      parse (a ++ b) = (parse a).overlay (parse b) ∧
      parse (a ++ b) = .ofList [("Icon", .text "x"), ("Name", .text "Spy")] := by
  intro entries lines text a b
  have hname : IsKey "Name".toList := ⟨by decide +kernel, by decide +kernel, by simp⟩
  have hlists : Lists false entries lines := by
    have hother : IsHeader "Other".toList "[Other]".toList :=
      ⟨[], [], isGap_nil, isGap_nil, by decide +kernel⟩
    refine .otherHeader (by decide +kernel) hother ?_
    refine .outside (not_isHeader_iff.2 (by decide +kernel)) ?_
    have hspace : IsGap [' '] := isGap_singleton (by decide)
    refine .header ⟨[' '], ['\t'], hspace, isGap_singleton (by decide), by decide +kernel⟩ ?_
    refine .entry hname (by decide +kernel)
      ⟨[], [' '], [' '], [], isGap_nil, hspace, hspace, isGap_nil, by decide +kernel⟩ ?_
    refine .skipped (.inr ⟨[' '], " Name=x".toList, hspace, by decide +kernel⟩) ?_
    refine .plain (by decide +kernel) (not_isHeader_iff.2 (by decide +kernel)) ?_
    exact .entry hname (by decide +kernel) ⟨[], ['\u00a0'], ['\u3000'], [], isGap_nil,
      isGap_singleton (by decide), isGap_singleton (by decide), isGap_nil, by decide +kernel⟩ .done
  have htext : IsText lines text.toList := by
    have hlines : text.toList = "[Other]".toList ++ ['\n'] ++ ("Name=lost".toList ++ ['\r', '\n']
        ++ (" [Desktop Entry]\t".toList ++ ['\n'] ++ ("Name = Spy".toList ++ ['\r', '\n']
        ++ (" # Name=x".toList ++ ['\n'] ++ ("[Name".toList ++ ['\n']
        ++ "Name\u00a0=\u3000[A=B]#".toList))))) := by decide +kernel
    rw [hlines]
    exact .cons (by decide +kernel) (.inl rfl) <| .cons (by decide +kernel) (.inr rfl) <|
      .cons (by decide +kernel) (.inl rfl) <| .cons (by decide +kernel) (.inr rfl) <|
      .cons (by decide +kernel) (.inl rfl) <| .cons (by decide +kernel) (.inl rfl) <|
      .last (by decide +kernel)
  have hbegins : BeginsGroup b.toList := by
    have hcomment : IsSkipped "# again".toList := .inr ⟨[], " again".toList, isGap_nil, by decide +kernel⟩
    have hheader : IsHeader groupName "[Desktop Entry]".toList :=
      ⟨[], [], isGap_nil, isGap_nil, by decide +kernel⟩
    refine ⟨["# again".toList, []], groupName, "[Desktop Entry]".toList, ["Name=Spy".toList], ?_,
      hheader, ?_⟩
    · simpa using ⟨hcomment, .inl isGap_nil⟩
    · have hlines : b.toList = "# again".toList ++ ['\n'] ++ ([] ++ ['\n']
          ++ ("[Desktop Entry]".toList ++ ['\n'] ++ "Name=Spy".toList)) := by decide +kernel
      rw [hlines]
      exact .cons (by decide +kernel) (.inl rfl) <| .cons (by decide +kernel) (.inl rfl) <|
        .cons (by decide +kernel) (.inl rfl) <| .last (by decide +kernel)
  have hget := parse_layout.1 entries lines text hlists htext
  have hlast : a.toList.getLast? = some '\n' := by decide +kernel
  have happend := parse_layout.2 a b hlast hbegins
  refine ⟨⟨hlists, htext, ?_, ?_⟩, hlast, hbegins, happend, by decide +kernel⟩
  · rw [hget]
    decide +kernel
  · rw [hget]
    decide +kernel

end PluginCatalog.Metadata.DesktopEntry
