import Mathlib.Data.List.TakeWhile
import PluginCatalog.Proofs.Json.PrettyText

/-!
# Where a value ends

A numeral ends where no more of it follows, so it takes one look at what is behind it; every other
token shows its own end. No reader looks further than that (`Text.OneAhead`). An object ends with its
brace, and with nothing left to decide: what is read of it is the same whatever follows
(`Json.Tree.read?_object`).
-/

namespace PluginCatalog

namespace Text

variable {α β : Type}

/-- What a reader takes from the front of a text depends on what it takes and on the first character
that it leaves. -/
def OneAhead (read? : List Char → Option (α × List Char)) : Prop :=
  ∀ ⦃s a r⦄, read? s = some (a, r) →
    ∃ u, s = u ++ r ∧ ∀ x : List Char, x.head? = r.head? → read? (u ++ x) = some (a, x)

/-- The first character of a text is the same whatever follows, if this begins with the same. -/
theorem head?_append_congr {x r : List Char} (h : x.head? = r.head?) (u : List Char) :
    (u ++ x).head? = (u ++ r).head? := by
  rw [List.head?_append, List.head?_append, h]

/-- A text that begins as another one does begins with a character only if that one does. -/
theorem ne_cons_of_head? {c : Char} {x s : List Char} (h : x.head? = s.head?)
    (hs : ∀ t, s ≠ c :: t) (t : List Char) : x ≠ c :: t := by
  rintro rfl
  obtain ⟨rest, hrest⟩ := List.head?_eq_some_iff.1 h.symm
  exact hs rest hrest

/-- What is read may be changed. -/
theorem OneAhead.map {read? : List Char → Option (α × List Char)} (h : OneAhead read?) (f : α → β) :
    OneAhead fun s => (read? s).map fun r => (f r.1, r.2) := by
  intro s b r hb
  obtain ⟨⟨a, r'⟩, ha, he⟩ := Option.map_eq_some_iff.1 hb
  cases he
  obtain ⟨u, hs, hread⟩ := h ha
  refine ⟨u, hs, fun x hx => ?_⟩
  dsimp only
  rw [hread x hx, Option.map_some]

/-- One reader may go on where another ended: it begins with what that one saw. -/
theorem OneAhead.bind {first? : List Char → Option (α × List Char)}
    {next? : α → List Char → Option (β × List Char)} (hfirst : OneAhead first?)
    (hnext : ∀ a, OneAhead (next? a)) : OneAhead fun s => (first? s).bind fun r => next? r.1 r.2 := by
  intro s b r hb
  obtain ⟨⟨a, r'⟩, ha, hb'⟩ := Option.bind_eq_some_iff.1 hb
  obtain ⟨u, rfl, hreadFirst⟩ := hfirst ha
  obtain ⟨v, rfl, hreadNext⟩ := hnext a hb'
  refine ⟨u ++ v, (List.append_assoc u v r).symm, fun x hx => ?_⟩
  dsimp only
  rw [List.append_assoc, hreadFirst (v ++ x) (head?_append_congr hx v), Option.bind_some]
  exact hreadNext x hx

end Text

open Text

/-! ## Numerals -/

namespace Numeral

/-- Digits end before the first character that is none. -/
theorem oneAhead_readDigits? : OneAhead readDigits? := by
  intro s digits r h
  unfold readDigits? at h
  dsimp only at h
  split at h
  · cases h
  · rename_i hne
    cases h
    refine ⟨s.takeWhile Char.isDigit, (List.takeWhile_append_dropWhile).symm, fun x hx => ?_⟩
    have hend : ∀ c ∈ x.head?, c.isDigit = false := by
      rw [hx]
      exact head_dropWhile s
    have hdigits : ∀ c ∈ s.takeWhile Char.isDigit, c.isDigit = true := fun c hc =>
      List.mem_takeWhile_imp hc
    unfold readDigits?
    rw [takeWhile_append_of_head hend, dropWhile_append_of_head hend,
      List.takeWhile_eq_self_iff.2 hdigits, List.dropWhile_eq_nil_iff.2 hdigits, List.nil_append]
    exact if_neg hne

/-- The whole part ends where its digits do. -/
theorem oneAhead_readWhole? : OneAhead readWhole? := by
  intro s digits r h
  unfold readWhole? at h
  split at h
  · cases h
  · rename_i hzero
    obtain ⟨u, hs, hread⟩ := oneAhead_readDigits? h
    refine ⟨u, hs, fun x hx => ?_⟩
    unfold readWhole?
    rw [hread x hx]
    split
    · rename_i he
      cases he
      exact absurd h (hzero _ _ _)
    · rfl

/-- A fraction ends where its digits do; there is none if no point follows. -/
theorem oneAhead_readFraction? : OneAhead readFraction? := by
  intro s digits r h
  unfold readFraction? at h
  split at h
  · obtain ⟨u, rfl, hread⟩ := oneAhead_readDigits? h
    exact ⟨'.' :: u, rfl, hread⟩
  · rename_i hpoint
    cases h
    refine ⟨[], rfl, fun x hx => ?_⟩
    rw [List.nil_append]
    unfold readFraction?
    split
    · exact absurd rfl (ne_cons_of_head? hx hpoint _)
    · rfl

/-- An exponent ends where its digits do. -/
theorem oneAhead_readSignedDigits? : OneAhead readSignedDigits? := by
  intro s e r h
  unfold readSignedDigits? at h
  split at h
  · obtain ⟨u, rfl, hread⟩ := oneAhead_readDigits?.map (fun digits => -(Decimal.number digits : Int)) h
    exact ⟨'-' :: u, rfl, hread⟩
  · obtain ⟨u, rfl, hread⟩ := oneAhead_readDigits?.map (fun digits => (Decimal.number digits : Int)) h
    exact ⟨'+' :: u, rfl, hread⟩
  · rename_i hminus hplus
    obtain ⟨u, rfl, hread⟩ := oneAhead_readDigits?.map (fun digits => (Decimal.number digits : Int)) h
    refine ⟨u, rfl, fun x hx => ?_⟩
    have hhead := head?_append_congr hx u
    unfold readSignedDigits?
    split
    · rename_i he
      exact absurd he (ne_cons_of_head? hhead hminus _)
    · rename_i he
      exact absurd he (ne_cons_of_head? hhead hplus _)
    · exact hread x hx

/-- An exponent ends where its digits do; there is none if no mark follows. -/
theorem oneAhead_readExponent? : OneAhead readExponent? := by
  intro s e r h
  cases s with
  | nil =>
    cases h
    refine ⟨[], rfl, fun x hx => ?_⟩
    obtain rfl := List.head?_eq_none_iff.1 hx
    rfl
  | cons c s =>
    rw [readExponent?] at h
    split at h
    · rename_i hmark
      obtain ⟨u, rfl, hread⟩ := oneAhead_readSignedDigits?.map some h
      refine ⟨c :: u, rfl, fun x hx => ?_⟩
      rw [List.cons_append, readExponent?, if_pos hmark]
      exact hread x hx
    · rename_i hmark
      cases h
      refine ⟨[], rfl, fun x hx => ?_⟩
      obtain ⟨t, rfl⟩ := List.head?_eq_some_iff.1 hx
      rw [List.nil_append, readExponent?, if_neg hmark]

/-- A numeral without sign ends where its last part does. -/
theorem oneAhead_readUnsigned? (negative : Bool) : OneAhead (readUnsigned? negative) := by
  have hparts := oneAhead_readWhole?.bind fun whole =>
    oneAhead_readFraction?.bind fun fraction =>
      oneAhead_readExponent?.map fun exponent => (⟨negative, whole, fraction, exponent⟩ : Numeral)
  simp only [Option.map_eq_bind] at hparts
  exact hparts

/-- A numeral ends where its last part does. -/
theorem oneAhead_read? : OneAhead read? := by
  intro s n r h
  unfold read? at h
  split at h
  · obtain ⟨u, rfl, hread⟩ := oneAhead_readUnsigned? true h
    exact ⟨'-' :: u, rfl, hread⟩
  · rename_i hminus
    obtain ⟨u, rfl, hread⟩ := oneAhead_readUnsigned? false h
    refine ⟨u, rfl, fun x hx => ?_⟩
    have hhead := head?_append_congr hx u
    unfold read?
    split
    · rename_i he
      exact absurd he (ne_cons_of_head? hhead hminus _)
    · exact hread x hx

end Numeral

namespace Json

/-! ## Tokens -/

/-- A string ends with its quote. -/
theorem oneAhead_readPieces? : OneAhead readPieces? := by
  intro s pieces r h
  -- What each piece takes does not depend on what follows, and the quote takes the last character.
  fun_induction readPieces? s generalizing pieces r with
  | case1 => cases h
  | case2 rest =>
    cases h
    exact ⟨['"'], rfl, fun x _ => rfl⟩
  | case3 a b c d rest ih =>
    simp only [Option.bind_eq_bind, Option.bind_eq_some_iff] at h
    obtain ⟨piece, hpiece, ⟨pieces', r'⟩, h', he⟩ := h
    cases he
    obtain ⟨u, rfl, hread⟩ := ih h'
    refine ⟨'\\' :: 'u' :: a :: b :: c :: d :: u, rfl, fun x hx => ?_⟩
    simp only [List.cons_append, readPieces?, hpiece, hread x hx]
    rfl
  | case4 letter rest hcode ih =>
    simp only [Option.bind_eq_bind, Option.bind_eq_some_iff] at h
    obtain ⟨c, hc, ⟨pieces', r'⟩, h', he⟩ := h
    cases he
    obtain ⟨u, rfl, hread⟩ := ih h'
    refine ⟨'\\' :: letter :: u, rfl, fun x hx => ?_⟩
    rw [List.cons_append, List.cons_append, readPieces?_escaped hc, hread x hx, Option.map_some]
  | case5 => cases h
  | case6 c rest hquote _ _ hplain ih =>
    simp only [Option.bind_eq_bind, Option.bind_eq_some_iff] at h
    obtain ⟨⟨pieces', r'⟩, h', he⟩ := h
    cases he
    obtain ⟨u, rfl, hread⟩ := ih h'
    rw [not_or, Nat.not_lt] at hplain
    refine ⟨c :: u, rfl, fun x hx => ?_⟩
    rw [List.cons_append, readPieces?_plain hquote hplain.1 hplain.2, hread x hx, Option.map_some]

namespace Token

/-- A token shows its own end, except a numeral. -/
theorem oneAhead_readFrom? (c : Char) : OneAhead (readFrom? c) := by
  intro s token r h
  unfold readFrom? at h
  split at h
  case h_7 =>
    exact oneAhead_readPieces?.map (fun pieces => string ((joinPieces? pieces).map String.ofList)) h
  case h_11 =>
    obtain ⟨⟨n, r'⟩, hn, he⟩ := Option.map_eq_some_iff.1 h
    obtain ⟨u, hs, hread⟩ := Numeral.oneAhead_read?.map (fun n => number n.number?) h
    cases u with
    | nil =>
      -- A numeral takes a character at least.
      have hshort := length_readNumeral hn
      cases he
      rw [List.nil_append] at hs
      rw [hs] at hshort
      exact absurd hshort (Nat.lt_irrefl _)
    | cons d u =>
      cases hs
      refine ⟨u, rfl, fun x hx => ?_⟩
      rw [readFrom?_of_head (Numeral.head_of_read? hn)]
      exact hread x hx
  case h_8 =>
    cases h
    exact ⟨['u', 'l', 'l'], rfl, fun x _ => rfl⟩
  case h_9 =>
    cases h
    exact ⟨['r', 'u', 'e'], rfl, fun x _ => rfl⟩
  case h_10 =>
    cases h
    exact ⟨['a', 'l', 's', 'e'], rfl, fun x _ => rfl⟩
  all_goals
    cases h
    exact ⟨[], rfl, fun x _ => rfl⟩

/-- A token begins with the first character that is no space. -/
theorem exists_of_read? {s r : List Char} {token : Token} (h : read? s = some (token, r)) :
    ∃ space c rest, (∀ d ∈ space, isSpace d = true) ∧ isSpace c = false ∧ s = space ++ c :: rest ∧
      readFrom? c rest = some (token, r) := by
  unfold read? at h
  split at h
  · cases h
  · rename_i c rest hdrop
    refine ⟨s.takeWhile isSpace, c, rest, fun d hd => List.mem_takeWhile_imp hd, ?_, ?_, h⟩
    · exact head_dropWhile s c (by rw [hdrop]; rfl)
    · rw [← hdrop, List.takeWhile_append_dropWhile]

/-- The space before a token does not count. -/
theorem read?_space_cons {space : List Char} {c : Char} (hspace : ∀ d ∈ space, isSpace d = true)
    (hc : isSpace c = false) (rest : List Char) : read? (space ++ c :: rest) = readFrom? c rest := by
  rw [read?_append_of_space hspace, read?, List.dropWhile_cons_of_neg (by simp [hc])]

/-- A token with the space before it shows its own end, except a numeral. -/
theorem oneAhead_read? : OneAhead read? := by
  intro s token r h
  obtain ⟨space, c, rest, hspace, hc, rfl, hfrom⟩ := exists_of_read? h
  obtain ⟨u, rfl, hread⟩ := oneAhead_readFrom? c hfrom
  refine ⟨space ++ c :: u, by simp, fun x hx => ?_⟩
  rw [List.append_assoc, List.cons_append, read?_space_cons hspace hc]
  exact hread x hx

/-- The end of an object is its brace, whatever follows. -/
theorem exists_of_read?_closeObject {s r : List Char} (h : read? s = some (closeObject, r)) :
    ∃ space, s = space ++ '}' :: r ∧ ∀ x, read? (space ++ '}' :: x) = some (closeObject, x) := by
  obtain ⟨space, c, rest, hspace, hc, rfl, hfrom⟩ := exists_of_read? h
  obtain ⟨rfl, rfl⟩ := eq_of_readFrom?_mark rfl hfrom
  exact ⟨space, rfl, fun x => read?_space_cons hspace hc x⟩

end Token

/-! ## Objects -/

namespace Tree.State

/-- Only the brace at its end completes an object. -/
theorem eq_closeObject_of_step? {state : State} {token : Token}
    {members : List (Option String × Tree)}
    (h : state.step? token = some (finished (.object members))) : token = .closeObject := by
  have hgive {t u : Tree} {waiting : List Pending} (hg : give t waiting = finished u) : t = u := by
    cases waiting with
    | nil => exact finished.inj hg
    | cons p waiting => cases p <;> cases hg
  -- Every other token leaves a reader that waits, or completes a value of another kind.
  cases token
  case closeObject => rfl
  all_goals
    cases state <;> simp only [step?, beginValue?, Option.some.injEq, reduceCtorEq] at h <;>
      cases hgive h

/-- An object is read up to its brace, and nothing behind it counts. -/
theorem run?_object {state : State} {s r : List Char} {members : List (Option String × Tree)}
    (hwaits : ∀ t, state ≠ finished t) (h : state.run? s = some (.object members, r)) :
    ∃ u, s = u ++ '}' :: r ∧ ∀ x, state.run? (u ++ '}' :: x) = some (.object members, x) := by
  induction hn : s.length using Nat.strongRecOn generalizing state s with
  | ind n ih =>
  rw [run?_eq hwaits] at h
  obtain ⟨⟨token, rest⟩, hread, h⟩ := Option.bind_eq_some_iff.1 h
  obtain ⟨next, hstep, hrun⟩ := Option.bind_eq_some_iff.1 h
  dsimp only at hstep hrun
  by_cases hnext : ∃ t, next = finished t
  · -- The token was the brace.
    obtain ⟨t, rfl⟩ := hnext
    rw [run?] at hrun
    cases hrun
    obtain rfl := eq_closeObject_of_step? hstep
    obtain ⟨space, rfl, hspace⟩ := Token.exists_of_read?_closeObject hread
    refine ⟨space, rfl, fun x => ?_⟩
    rw [run?_of_read (hspace x) hstep, run?]
  · -- The rest goes on to the brace, so it begins as before, whatever is behind the brace.
    obtain ⟨u, rfl, htoken⟩ := Token.oneAhead_read? hread
    have hshort := Token.length_read hread
    obtain ⟨v, rfl, hrest⟩ :=
      ih _ (hn ▸ hshort) (fun t ht => hnext ⟨t, ht⟩) hrun rfl
    refine ⟨u ++ v, (List.append_assoc u v _).symm, fun x => ?_⟩
    have hhead : (v ++ '}' :: x).head? = (v ++ '}' :: r).head? :=
      Text.head?_append_congr (by rfl) v
    rw [List.append_assoc, run?_of_read (htoken _ hhead) hstep]
    exact hrest x

end Tree.State

/-- An object at the front of a text is read up to its brace, and nothing behind it counts. -/
theorem Tree.read?_object {s r : List Char} {members : List (Option String × Tree)}
    (h : Tree.read? s = some (.object members, r)) :
    ∃ u, s = u ++ '}' :: r ∧ ∀ x, Tree.read? (u ++ '}' :: x) = some (.object members, x) :=
  State.run?_object (by simp) h

end Json

end PluginCatalog
