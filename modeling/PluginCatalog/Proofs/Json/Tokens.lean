import PluginCatalog.Json.Printer
import PluginCatalog.Json.Token
import PluginCatalog.Proofs.Text.Runs

/-!
# Written tokens

A quoted text is read as a string token with the text (`Token.read?_quote`), whatever follows. A
numeral is read as it is before every text that does not continue it (`Token.read?_number_append`).
-/

namespace PluginCatalog.Json

/-! ## Strings -/

/-- The digit for a number below 16 has it as its value. -/
theorem hexDigit?_hexDigit {n : Nat} (h : n < 16) : hexDigit? (hexDigit n) = some n := by
  have hall : ∀ n < 16, hexDigit? (hexDigit n) = some n := by decide
  exact hall n h

/-- A letter after a backslash is read as the character that it names. -/
theorem readPieces?_escaped {letter c : Char} (h : unescape? letter = some c) (rest : List Char) :
    readPieces? ('\\' :: letter :: rest)
      = (readPieces? rest).map fun r => (.char c :: r.1, r.2) := by
  have hcode : letter ≠ 'u' := by
    rintro rfl
    cases h
  rw [readPieces?.eq_4 letter rest fun _ _ _ _ _ hu _ => hcode hu, h]
  cases readPieces? rest <;> rfl

/-- A character that needs no escape is read as itself. -/
theorem readPieces?_plain {c : Char} (hquote : c ≠ '"') (hslash : c ≠ '\\') (hc : 0x20 ≤ c.toNat)
    (rest : List Char) :
    readPieces? (c :: rest) = (readPieces? rest).map fun r => (.char c :: r.1, r.2) := by
  rw [readPieces?.eq_5 c rest hquote (fun _ _ _ _ _ h _ => hslash h) fun _ _ h _ => hslash h,
    if_neg (by simp [hslash, hc])]
  cases readPieces? rest <;> rfl

/-- A character as it is written in a string is read as the character. -/
theorem readPieces?_escapeChar (c : Char) (rest : List Char) :
    readPieces? (escapeChar c ++ rest)
      = (readPieces? rest).map fun r => (.char c :: r.1, r.2) := by
  unfold escapeChar
  split
  case h_8 hquote hslash _ _ _ _ _ =>
    split
    · rename_i hcontrol
      have hhex : Piece.ofHex? '0' '0' (hexDigit (c.toNat / 16)) (hexDigit (c.toNat % 16))
          = some (.char c) := by
        have hzero : hexDigit? '0' = some 0 := by decide
        have hcode : ((0 * 16 + 0) * 16 + c.toNat / 16) * 16 + c.toNat % 16 = c.toNat := by omega
        simp only [Piece.ofHex?, hzero, hexDigit?_hexDigit (show c.toNat / 16 < 16 by omega),
          hexDigit?_hexDigit (Nat.mod_lt c.toNat (by decide)), Option.bind_eq_bind, Option.bind_some,
          hcode, Char.ofNat_toNat]
        rw [if_neg (by omega)]
        rfl
      simp only [List.cons_append, List.nil_append, readPieces?, hhex]
      cases readPieces? rest <;> rfl
    · rename_i hplain
      exact readPieces?_plain hquote hslash (Nat.not_lt.1 hplain) rest
  all_goals exact readPieces?_escaped rfl rest

/-- A text as it is written in a string is read as the text, up to the closing quote. -/
theorem readPieces?_escape (s rest : List Char) :
    readPieces? (escape s ++ '"' :: rest) = some (s.map .char, rest) := by
  induction s with
  | nil => rfl
  | cons c s ih =>
    rw [escape, List.flatMap_cons, List.append_assoc, readPieces?_escapeChar]
    rw [escape] at ih
    rw [ih]
    rfl

/-- Characters are joined to the text of them. -/
theorem joinPieces?_map_char (s : List Char) : joinPieces? (s.map .char) = some s := by
  induction s with
  | nil => rfl
  | cons c s ih => rw [List.map_cons, joinPieces?, ih, Option.map_some]

namespace Token

/-- Space before a token does not count. -/
theorem read?_append_of_space {space : List Char} (h : ∀ c ∈ space, isSpace c = true)
    (rest : List Char) : read? (space ++ rest) = read? rest := by
  rw [read?, read?, List.dropWhile_append_of_pos h]

/-- A line break with its indentation does not count. -/
theorem read?_newline (depth : Nat) (rest : List Char) : read? (newline depth ++ rest) = read? rest := by
  refine read?_append_of_space (fun c hc => ?_) rest
  rcases List.mem_cons.1 hc with rfl | hc
  · rfl
  · rw [(List.mem_replicate.1 hc).2]
    rfl

/-- A quoted text is read as a string with the text. -/
theorem read?_quote (s : String) (rest : List Char) :
    read? (quote s ++ rest) = some (string (some s), rest) := by
  have hpieces : readPieces? (escape s.toList ++ ['"'] ++ rest) = some (s.toList.map .char, rest) := by
    rw [List.append_assoc]
    exact readPieces?_escape s.toList rest
  show readString? (escape s.toList ++ ['"'] ++ rest) = _
  rw [readString?, hpieces, Option.map_some]
  dsimp only
  rw [joinPieces?_map_char, Option.map_some, String.ofList_toList]

end Token

end PluginCatalog.Json

/-! ## Numerals -/

namespace PluginCatalog.Numeral

/-- A text does not continue a numeral before it. -/
def Ends (rest : List Char) : Prop :=
  ∀ c ∈ rest.head?, c.isDigit = false ∧ c ≠ '.' ∧ c ≠ 'e' ∧ c ≠ 'E'

variable {rest : List Char} (hrest : Ends rest)

include hrest

/-- The digits at the front of a text end where it does, if the text after it does not go on with one. -/
theorem readDigits?_append {s digits r : List Char} (h : readDigits? s = some (digits, r)) :
    readDigits? (s ++ rest) = some (digits, r ++ rest) := by
  have hdigit : ∀ c ∈ rest.head?, c.isDigit = false := fun c hc => (hrest c hc).1
  unfold readDigits? at h ⊢
  dsimp only at h ⊢
  rw [Text.takeWhile_append_of_head hdigit, Text.dropWhile_append_of_head hdigit]
  split at h
  · cases h
  · rename_i hne
    cases h
    rw [if_neg hne]

/-- The whole part ends where the text does. -/
theorem readWhole?_append {s digits r : List Char} (h : readWhole? s = some (digits, r)) :
    readWhole? (s ++ rest) = some (digits, r ++ rest) := by
  unfold readWhole? at h
  split at h
  · cases h
  · rename_i hzero
    unfold readWhole?
    rw [readDigits?_append hrest h]
    split
    · rename_i digit digits' r' he
      cases he
      exact absurd h (hzero _ _ _)
    · rfl

/-- The fraction ends where the text does. -/
theorem readFraction?_append {s digits r : List Char} (h : readFraction? s = some (digits, r)) :
    readFraction? (s ++ rest) = some (digits, r ++ rest) := by
  unfold readFraction? at h
  split at h
  · exact readDigits?_append hrest h
  · rename_i hpoint
    cases h
    unfold readFraction?
    split
    · rename_i r' he
      cases s with
      | nil =>
        rw [List.nil_append] at he
        rw [he] at hrest
        exact absurd rfl (hrest '.' rfl).2.1
      | cons c s => exact absurd (congrArg (· :: s) (List.cons.inj he).1) (hpoint s)
    · rfl

/-- The digits of an exponent end where the text does. -/
theorem readSignedDigits?_append {s r : List Char} {e : Int}
    (h : readSignedDigits? s = some (e, r)) :
    readSignedDigits? (s ++ rest) = some (e, r ++ rest) := by
  cases s with
  | nil => cases h
  | cons c s =>
    unfold readSignedDigits? at h
    split at h <;> obtain ⟨⟨digits, r'⟩, hd, he⟩ := Option.map_eq_some_iff.1 h <;> cases he
    · rename_i hsign
      cases hsign
      simp only [List.cons_append, readSignedDigits?, readDigits?_append hrest hd, Option.map_some]
    · rename_i hsign
      cases hsign
      simp only [List.cons_append, readSignedDigits?, readDigits?_append hrest hd, Option.map_some]
    · rename_i hminus hplus
      have hread := readDigits?_append hrest hd
      unfold readSignedDigits?
      split
      · rename_i he
        cases he
        exact absurd rfl (hminus s)
      · rename_i he
        cases he
        exact absurd rfl (hplus s)
      · rw [hread, Option.map_some]

/-- The exponent ends where the text does. -/
theorem readExponent?_append {s r : List Char} {e : Option Int}
    (h : readExponent? s = some (e, r)) : readExponent? (s ++ rest) = some (e, r ++ rest) := by
  cases s with
  | nil =>
    cases h
    cases rest with
    | nil => rfl
    | cons c rest =>
      obtain ⟨-, -, he, hE⟩ := hrest c rfl
      rw [List.nil_append, readExponent?, if_neg (not_or.2 ⟨he, hE⟩)]
  | cons c s =>
    rw [readExponent?] at h
    rw [List.cons_append, readExponent?]
    split at h
    · rename_i hmark
      obtain ⟨⟨e', r'⟩, hd, he⟩ := Option.map_eq_some_iff.1 h
      cases he
      rw [if_pos hmark, readSignedDigits?_append hrest hd, Option.map_some]
    · rename_i hmark
      cases h
      rw [if_neg hmark, List.cons_append]

/-- A numeral without sign ends where the text does. -/
theorem readUnsigned?_append {negative : Bool} {s r : List Char} {n : Numeral}
    (h : readUnsigned? negative s = some (n, r)) :
    readUnsigned? negative (s ++ rest) = some (n, r ++ rest) := by
  simp only [readUnsigned?, Option.bind_eq_bind, Option.bind_eq_some_iff] at h
  obtain ⟨⟨whole, s₁⟩, h₁, ⟨fraction, s₂⟩, h₂, ⟨e, s₃⟩, h₃, he⟩ := h
  dsimp only at h₂ h₃ he
  cases he
  simp only [readUnsigned?, Option.bind_eq_bind, readWhole?_append hrest h₁, Option.bind_some,
    readFraction?_append hrest h₂, readExponent?_append hrest h₃]
  rfl

/-- A numeral ends where the text does, if the text after it does not continue it. -/
theorem read?_append {s r : List Char} {n : Numeral} (h : read? s = some (n, r)) :
    read? (s ++ rest) = some (n, r ++ rest) := by
  cases s with
  | nil => cases h
  | cons c s =>
    unfold read? at h
    split at h
    · rename_i hsign
      cases hsign
      exact readUnsigned?_append hrest h
    · rename_i hminus
      have hread := readUnsigned?_append hrest h
      unfold read?
      split
      · rename_i he
        cases he
        exact absurd rfl (hminus s)
      · exact hread

omit hrest in
/-- A numeral begins with a minus sign or a digit. -/
theorem head_of_read? {c : Char} {s r : List Char} {n : Numeral} (h : read? (c :: s) = some (n, r)) :
    c = '-' ∨ c.isDigit = true := by
  by_cases hminus : c = '-'
  · exact .inl hminus
  · refine .inr (Classical.byContradiction fun hdigit => ?_)
    have hdigits : readDigits? (c :: s) = none := by
      rw [Bool.not_eq_true] at hdigit
      simp [readDigits?, hdigit]
    have hwhole : readWhole? (c :: s) = none := by
      rw [readWhole?, hdigits]
    have hunsigned : readUnsigned? false (c :: s) = none := by
      rw [readUnsigned?, hwhole]
      rfl
    unfold read? at h
    split at h
    · rename_i he
      exact hminus (List.cons.inj he).1
    · rw [hunsigned] at h
      cases h

end PluginCatalog.Numeral

namespace PluginCatalog

/-- A number is read as itself from its text. -/
def JsonNumber.ReadsBack (n : JsonNumber) : Prop :=
  Json.Token.read? n.text = some (.number (some n), [])

instance (n : JsonNumber) : Decidable n.ReadsBack :=
  inferInstanceAs (Decidable (Json.Token.read? n.text = some (.number (some n), [])))

namespace Json.Token

/-- The character of a token that consists of one. -/
def mark? : Token → Option Char
  | openArray => some '['
  | closeArray => some ']'
  | openObject => some '{'
  | closeObject => some '}'
  | comma => some ','
  | colon => some ':'
  | null | bool _ | number _ | string _ => none

/-- A token of one character begins with it and leaves the rest. -/
theorem eq_of_readFrom?_mark {c m : Char} {s r : List Char} {t : Token} (hm : t.mark? = some m)
    (h : readFrom? c s = some (t, r)) : c = m ∧ s = r := by
  unfold readFrom? at h
  split at h
  case h_7 =>
    obtain ⟨p, -, he⟩ := Option.map_eq_some_iff.1 h
    cases he
    cases hm
  case h_11 =>
    obtain ⟨p, -, he⟩ := Option.map_eq_some_iff.1 h
    cases he
    cases hm
  all_goals
    cases h
    cases hm <;> exact ⟨rfl, rfl⟩

/-- A token that begins with a minus sign or a digit is read as a number. -/
theorem readFrom?_of_head {c : Char} (h : c = '-' ∨ c.isDigit = true) (s : List Char) :
    readFrom? c s = readNumber? (c :: s) := by
  unfold readFrom?
  split <;> first | rfl | exact absurd h (by decide)

/-- A number begins with a minus sign or a digit. -/
theorem head_of_readFrom? {c : Char} {s r : List Char} {n : Option JsonNumber}
    (h : readFrom? c s = some (.number n, r)) : c = '-' ∨ c.isDigit = true := by
  unfold readFrom? at h
  split at h
  case h_7 =>
    obtain ⟨p, -, he⟩ := Option.map_eq_some_iff.1 h
    cases he
  case h_11 =>
    obtain ⟨⟨m, r'⟩, hm, -⟩ := Option.map_eq_some_iff.1 h
    exact Numeral.head_of_read? hm
  all_goals cases h

/-- A number that is read as itself is so before every text that does not continue it. -/
theorem read?_number_append {n : JsonNumber} (hn : n.ReadsBack) {rest : List Char}
    (hrest : Numeral.Ends rest) : read? (n.text ++ rest) = some (.number (some n), rest) := by
  unfold JsonNumber.ReadsBack read? at hn
  split at hn
  · cases hn
  · rename_i c s htext
    have hhead := head_of_readFrom? hn
    rw [readFrom?_of_head hhead] at hn
    obtain ⟨⟨m, r⟩, hm, he⟩ := Option.map_eq_some_iff.1 hn
    simp only [Prod.mk.injEq, Token.number.injEq] at he
    obtain ⟨hvalue, rfl⟩ := he
    have hdrop : (n.text ++ rest).dropWhile isSpace = c :: (s ++ rest) := by
      rw [List.dropWhile_append, htext]
      rfl
    have hread := Numeral.read?_append hrest hm
    rw [List.cons_append, List.nil_append] at hread
    rw [read?, hdrop]
    dsimp only
    rw [readFrom?_of_head hhead, readNumber?, hread, Option.map_some]
    dsimp only
    rw [hvalue]

/-- The text of a number that is read as itself does not begin with the end of an array. -/
theorem head_of_readsBack {n : JsonNumber} (hn : n.ReadsBack) (rest : List Char) :
    ∃ c s, (n.text ++ rest).dropWhile isSpace = c :: s ∧ c ≠ ']' := by
  unfold JsonNumber.ReadsBack read? at hn
  split at hn
  · cases hn
  · rename_i c s htext
    refine ⟨c, s ++ rest, ?_, ?_⟩
    · rw [List.dropWhile_append, htext]
      rfl
    · rintro rfl
      exact absurd (head_of_readFrom? hn) (by decide)

end Json.Token

end PluginCatalog
