import PluginCatalog.Json.Tree
import PluginCatalog.Proofs.Json.Tokens

/-!
# Written values

The text of a value on several lines is read as the form of the value (`Tree.ofText?_pretty`), if its
numbers are read as themselves. The reader takes the text of a value wherever it expects one, hands its
form to the container around it, and is then where the text after the value begins (`run?_pretty`).
-/

namespace PluginCatalog

/-- The first of some texts stands before the others. -/
theorem Text.separated_cons (separator s : List Char) (texts : List (List Char)) :
    separated separator (s :: texts)
      = s ++ (match texts with
        | [] => []
        | _ :: _ => separator ++ separated separator texts) := by
  cases texts <;> simp [separated]

namespace Json

mutual

/-- The form of the text of a value. -/
def tree : Json → Tree
  | null => .null
  | bool b => .bool b
  | number n => .number (some n)
  | string s => .string (some s)
  | array items => .array (treeItems items)
  | object members => .object (treeMembers members)

/-- The forms of the items of an array. -/
def treeItems : List Json → List Tree
  | [] => []
  | j :: rest => tree j :: treeItems rest

/-- The forms of the members of an object. -/
def treeMembers : List (String × Json) → List (Option String × Tree)
  | [] => []
  | (name, j) :: rest => (some name, tree j) :: treeMembers rest

end

mutual

/-- All numbers in a value are read as themselves. -/
def ReadsBack : Json → Prop
  | null => True
  | bool _ => True
  | number n => n.ReadsBack
  | string _ => True
  | array items => ItemsReadBack items
  | object members => MembersReadBack members

/-- All numbers in some items are read as themselves. -/
def ItemsReadBack : List Json → Prop
  | [] => True
  | j :: rest => ReadsBack j ∧ ItemsReadBack rest

/-- All numbers in some members are read as themselves. -/
def MembersReadBack : List (String × Json) → Prop
  | [] => True
  | (_, j) :: rest => ReadsBack j ∧ MembersReadBack rest

end

mutual

instance decidableReadsBack : (j : Json) → Decidable j.ReadsBack
  | null => isTrue trivial
  | bool _ => isTrue trivial
  | number n => inferInstanceAs (Decidable n.ReadsBack)
  | string _ => isTrue trivial
  | array items => decidableItemsReadBack items
  | object members => decidableMembersReadBack members

instance decidableItemsReadBack : (items : List Json) → Decidable (ItemsReadBack items)
  | [] => isTrue trivial
  | j :: rest => @instDecidableAnd _ _ (decidableReadsBack j) (decidableItemsReadBack rest)

instance decidableMembersReadBack :
    (members : List (String × Json)) → Decidable (MembersReadBack members)
  | [] => isTrue trivial
  | (_, j) :: rest => @instDecidableAnd _ _ (decidableReadsBack j) (decidableMembersReadBack rest)

end

/-- The text of a value whose numbers are read as themselves does not begin with the end of an array. -/
theorem ReadsBack.head_pretty {j : Json} (h : j.ReadsBack) (depth : Nat) (rest : List Char) :
    ∃ c s, (j.pretty depth ++ rest).dropWhile isSpace = c :: s ∧ c ≠ ']' := by
  cases j with
  | null => exact ⟨'n', _, rfl, by decide⟩
  | bool b => cases b <;> exact ⟨_, _, rfl, by decide⟩
  | number n =>
    rw [ReadsBack] at h
    rw [pretty, compact]
    exact Token.head_of_readsBack h rest
  | string s => exact ⟨'"', _, rfl, by decide⟩
  | array items => cases items <;> exact ⟨'[', _, rfl, by decide⟩
  | object members => cases members <;> exact ⟨'{', _, rfl, by decide⟩

namespace Tree.State

/-- A reader that waits for something takes the token at the front of a text. -/
theorem run?_eq {state : State} (h : ∀ t, state ≠ finished t) (s : List Char) :
    state.run? s = (Token.read? s).bind fun r => (state.step? r.1).bind (·.run? r.2) := by
  rw [run?.eq_def]
  split
  · exact absurd rfl (h _)
  · split
    · rename_i hnone
      rw [hnone, Option.bind_none]
    · rename_i token rest hsome
      rw [hsome, Option.bind_some]
      cases state.step? token <;> rfl

/-- The reader takes the token at the front of a text and goes on with the rest. -/
theorem run?_of_read {state next : State} {s rest : List Char} {token : Token}
    (hread : Token.read? s = some (token, rest)) (hstep : state.step? token = some next) :
    state.run? s = next.run? rest := by
  have h (t : Tree) : state ≠ finished t := by
    rintro rfl
    cases hstep
  rw [run?_eq h, hread, Option.bind_some, hstep, Option.bind_some]

/-- A reader that waits for something passes over space. -/
theorem run?_space {state : State} (h : ∀ t, state ≠ finished t) {space : List Char}
    (hspace : ∀ c ∈ space, isSpace c = true) (s : List Char) :
    state.run? (space ++ s) = state.run? s := by
  rw [run?_eq h, run?_eq h, Token.read?_append_of_space hspace]

/-- A reader that waits for something passes over a line break. -/
theorem run?_newline {state : State} (h : ∀ t, state ≠ finished t) (depth : Nat) (s : List Char) :
    state.run? (newline depth ++ s) = state.run? s := by
  rw [run?_eq h, run?_eq h, Token.read?_newline]

/-- Before anything but its end, an array waits for its first item as it does for another one. -/
theorem run?_firstItem {s : List Char} (h : ∃ c r, s.dropWhile isSpace = c :: r ∧ c ≠ ']')
    (waiting : List Pending) :
    (firstItem waiting).run? s = (value (.array [] :: waiting)).run? s := by
  obtain ⟨c, r, hs, hc⟩ := h
  have hread : Token.read? s = Token.readFrom? c r := by rw [Token.read?, hs]
  rw [run?_eq (by simp), run?_eq (by simp), hread]
  cases hfrom : Token.readFrom? c r with
  | none => rfl
  | some p =>
    obtain ⟨token, rest⟩ := p
    have hne : token ≠ .closeArray := by
      rintro rfl
      exact hc (Token.eq_of_readFrom?_mark rfl hfrom).1
    cases token with
    | closeArray => exact absurd rfl hne
    | _ => rfl

/-- Before a name, an object waits for its first member as it does for another one. -/
theorem run?_firstName (s : String) (rest : List Char) (waiting : List Pending) :
    (firstName waiting).run? (quote s ++ rest) = (name [] waiting).run? (quote s ++ rest) := by
  rw [run?_of_read (Token.read?_quote s rest) rfl, run?_of_read (Token.read?_quote s rest) rfl]

/-- After the name of a member and the colon its value is expected. -/
theorem run?_memberName (s : String) (rest : List Char) (before : List (Option String × Tree))
    (waiting : List Pending) :
    (name before waiting).run? (quote s ++ ':' :: ' ' :: rest)
      = (value (.object before (some s) :: waiting)).run? rest := by
  have hspace : ∀ c ∈ [' '], isSpace c = true := by simp [isSpace]
  have hcolon : Token.read? (':' :: ' ' :: rest) = some (.colon, ' ' :: rest) := rfl
  rw [run?_of_read (Token.read?_quote s _) rfl, run?_of_read hcolon rfl]
  exact run?_space (by simp) hspace rest

end Tree.State

open Json.Tree Json.Tree.State

/-- A line break does not continue a numeral. -/
theorem ends_newline (depth : Nat) (rest : List Char) : Numeral.Ends (newline depth ++ rest) := by
  rintro c hc
  cases hc
  decide

/-- A comma does not continue a numeral. -/
theorem ends_comma (rest : List Char) : Numeral.Ends (',' :: rest) := by
  rintro c hc
  cases hc
  decide

mutual

/-- The reader takes the text of a value where it expects one, and hands its form to the container
around it. -/
theorem run?_pretty (j : Json) (h : j.ReadsBack) (depth : Nat) (waiting : List Pending)
    {rest : List Char} (hrest : Numeral.Ends rest) :
    (State.value waiting).run? (j.pretty depth ++ rest) = (give j.tree waiting).run? rest := by
  match j, h with
  | null, _ => exact run?_of_read rfl rfl
  | bool true, _ => exact run?_of_read rfl rfl
  | bool false, _ => exact run?_of_read rfl rfl
  | number n, h =>
    rw [ReadsBack] at h
    rw [pretty, compact, tree]
    exact run?_of_read (Token.read?_number_append h hrest) rfl
  | string s, _ =>
    rw [pretty, compact, tree]
    exact run?_of_read (Token.read?_quote s rest) rfl
  | array [], _ => exact (run?_of_read rfl rfl).trans (run?_of_read rfl rfl)
  | array (j :: items), h =>
    rw [ReadsBack] at h
    -- The opening bracket is read first; what follows is no closing one, so it begins an item.
    have htext : (array (j :: items)).pretty depth ++ rest
        = '[' :: (newline (depth + 1)
          ++ (Text.separated (',' :: newline (depth + 1))
              (j.pretty (depth + 1) :: prettyItems (depth + 1) items)
            ++ (newline depth ++ ']' :: rest))) := by
      simp [pretty]
    have hfirst : ∃ c s, (Text.separated (',' :: newline (depth + 1))
          (j.pretty (depth + 1) :: prettyItems (depth + 1) items)
        ++ (newline depth ++ ']' :: rest)).dropWhile isSpace = c :: s ∧ c ≠ ']' := by
      rw [ItemsReadBack] at h
      rw [Text.separated_cons, List.append_assoc]
      exact h.1.head_pretty (depth + 1) _
    rw [htext, run?_of_read rfl rfl, run?_newline (by simp), run?_firstItem hfirst,
      run?_prettyItems j items h (depth + 1) depth [] waiting rest]
    rfl
  | object [], _ => exact (run?_of_read rfl rfl).trans (run?_of_read rfl rfl)
  | object ((key, j) :: members), h =>
    rw [ReadsBack] at h
    -- Likewise for an object, where what follows begins the name of a member.
    have htext : (object ((key, j) :: members)).pretty depth ++ rest
        = '{' :: (newline (depth + 1)
          ++ (Text.separated (',' :: newline (depth + 1))
              ((quote key ++ ':' :: ' ' :: j.pretty (depth + 1))
                :: prettyMembers (depth + 1) members)
            ++ (newline depth ++ '}' :: rest))) := by
      simp [pretty]
    have hfirst : (State.firstName waiting).run? (Text.separated (',' :: newline (depth + 1))
          ((quote key ++ ':' :: ' ' :: j.pretty (depth + 1)) :: prettyMembers (depth + 1) members)
        ++ (newline depth ++ '}' :: rest))
        = (State.name [] waiting).run? (Text.separated (',' :: newline (depth + 1))
          ((quote key ++ ':' :: ' ' :: j.pretty (depth + 1)) :: prettyMembers (depth + 1) members)
        ++ (newline depth ++ '}' :: rest)) := by
      simp only [Text.separated_cons, List.append_assoc]
      exact run?_firstName key _ waiting
    rw [htext, run?_of_read rfl rfl, run?_newline (by simp), hfirst,
      run?_prettyMembers key j members h (depth + 1) depth [] waiting rest]
    rfl
termination_by sizeOf j

/-- The reader takes the texts of the items of an array, one after another. -/
theorem run?_prettyItems (j : Json) (items : List Json) (h : ItemsReadBack (j :: items))
    (depth outer : Nat) (before : List Tree) (waiting : List Pending) (rest : List Char) :
    (State.value (.array before :: waiting)).run?
        (Text.separated (',' :: newline depth) (j.pretty depth :: prettyItems depth items)
          ++ (newline outer ++ ']' :: rest))
      = (give (.array (before.reverse ++ treeItems (j :: items))) waiting).run? rest := by
  rw [ItemsReadBack] at h
  cases items with
  | nil =>
    rw [prettyItems, Text.separated, run?_pretty j h.1 depth _ (ends_newline outer _), give,
      run?_newline (by simp), run?_of_read rfl rfl]
    simp [treeItems]
  | cons j' items =>
    have htext : Text.separated (',' :: newline depth)
          (j.pretty depth :: prettyItems depth (j' :: items)) ++ (newline outer ++ ']' :: rest)
        = j.pretty depth ++ ',' :: (newline depth
          ++ (Text.separated (',' :: newline depth) (j'.pretty depth :: prettyItems depth items)
            ++ (newline outer ++ ']' :: rest))) := by
      simp [prettyItems, Text.separated]
    rw [htext, run?_pretty j h.1 depth _ (ends_comma _), give, run?_of_read rfl rfl,
      run?_newline (by simp), run?_prettyItems j' items h.2 depth outer (j.tree :: before) waiting rest]
    simp [treeItems]
termination_by sizeOf j + sizeOf items

/-- The reader takes the texts of the members of an object, one after another. -/
theorem run?_prettyMembers (key : String) (j : Json) :
    ∀ (members : List (String × Json)), MembersReadBack ((key, j) :: members) →
      ∀ (depth outer : Nat) (before : List (Option String × Tree)) (waiting : List Pending)
        (rest : List Char),
      (State.name before waiting).run?
          (Text.separated (',' :: newline depth)
              ((quote key ++ ':' :: ' ' :: j.pretty depth) :: prettyMembers depth members)
            ++ (newline outer ++ '}' :: rest))
        = (give (.object (before.reverse ++ treeMembers ((key, j) :: members))) waiting).run? rest
  | [], h, depth, outer, before, waiting, rest => by
    rw [MembersReadBack] at h
    have htext : Text.separated (',' :: newline depth)
          ((quote key ++ ':' :: ' ' :: j.pretty depth) :: prettyMembers depth [])
          ++ (newline outer ++ '}' :: rest)
        = quote key ++ ':' :: ' ' :: (j.pretty depth ++ (newline outer ++ '}' :: rest)) := by
      simp [prettyMembers, Text.separated]
    rw [htext, run?_memberName, run?_pretty j h.1 depth _ (ends_newline outer _), give,
      run?_newline (by simp), run?_of_read rfl rfl]
    simp [treeMembers]
  | (key', j') :: members, h, depth, outer, before, waiting, rest => by
    rw [MembersReadBack] at h
    have htext : Text.separated (',' :: newline depth)
          ((quote key ++ ':' :: ' ' :: j.pretty depth)
            :: prettyMembers depth ((key', j') :: members))
          ++ (newline outer ++ '}' :: rest)
        = quote key ++ ':' :: ' ' :: (j.pretty depth ++ ',' :: (newline depth
          ++ (Text.separated (',' :: newline depth)
              ((quote key' ++ ':' :: ' ' :: j'.pretty depth) :: prettyMembers depth members)
            ++ (newline outer ++ '}' :: rest)))) := by
      simp [prettyMembers, Text.separated]
    rw [htext, run?_memberName, run?_pretty j h.1 depth _ (ends_comma _), give, run?_of_read rfl rfl,
      run?_newline (by simp),
      run?_prettyMembers key' j' members h.2 depth outer ((some key, j.tree) :: before) waiting rest]
    simp [treeMembers]
termination_by members => sizeOf j + sizeOf members

end

/-- The text of a value whose numbers are read as themselves is read as the form of the value. -/
theorem Tree.ofText?_pretty {j : Json} (h : j.ReadsBack) : Tree.ofText? (j.pretty 0) = some j.tree := by
  have hend : Numeral.Ends [] := nofun
  have hread : Tree.read? (j.pretty 0) = some (j.tree, []) := by
    have hrun := run?_pretty j h 0 [] hend
    rw [List.append_nil] at hrun
    rw [Tree.read?, hrun, give, State.run?]
  rw [Tree.ofText?, hread]
  rfl

end Json

end PluginCatalog
