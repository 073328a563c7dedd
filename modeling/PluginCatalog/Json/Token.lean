import PluginCatalog.Json.Escape
import PluginCatalog.Json.Numeral

/-!
# JSON tokens

`Token.read?` reads the token at the front of a JSON text. A token is read for every text that
follows the grammar: a number that is too large and a string that is no Unicode text are tokens
without content (`none`).
-/

namespace PluginCatalog.Json

/-- A token of a JSON text. -/
inductive Token where
  | openArray
  | closeArray
  | openObject
  | closeObject
  | comma
  | colon
  | null
  | bool (b : Bool)
  /-- A number, without content if it is too large. -/
  | number (n : Option JsonNumber)
  /-- A string, without content if it holds half of a surrogate pair. -/
  | string (s : Option String)
  deriving DecidableEq

/-- Whether a character separates tokens. -/
def isSpace (c : Char) : Bool := c = ' ' || c = '\t' || c = '\n' || c = '\r'

namespace Token

/-- Reads the string after its opening quote. -/
def readString? (s : List Char) : Option (Token × List Char) :=
  (readPieces? s).map fun (pieces, rest) =>
    (string ((joinPieces? pieces).map String.ofList), rest)

/-- Reads a number. -/
def readNumber? (s : List Char) : Option (Token × List Char) :=
  (Numeral.read? s).map fun (n, rest) => (number n.number?, rest)

/-- Reads the token that begins with a character. -/
def readFrom? : Char → List Char → Option (Token × List Char)
  | '[', s => some (openArray, s)
  | ']', s => some (closeArray, s)
  | '{', s => some (openObject, s)
  | '}', s => some (closeObject, s)
  | ',', s => some (comma, s)
  | ':', s => some (colon, s)
  | '"', s => readString? s
  | 'n', 'u' :: 'l' :: 'l' :: s => some (null, s)
  | 't', 'r' :: 'u' :: 'e' :: s => some (bool true, s)
  | 'f', 'a' :: 'l' :: 's' :: 'e' :: s => some (bool false, s)
  | c, s => readNumber? (c :: s)

/-- Reads the token at the front of a text, past the space before it. -/
def read? (s : List Char) : Option (Token × List Char) :=
  match s.dropWhile isSpace with
  | [] => none
  | c :: s => readFrom? c s

/-! ## A token takes at least one character -/

theorem length_dropWhile_le (p : Char → Bool) (s : List Char) :
    (s.dropWhile p).length ≤ s.length := (List.dropWhile_sublist p).length_le

theorem length_readDigits {s digits rest : List Char}
    (h : Numeral.readDigits? s = some (digits, rest)) : rest.length < s.length := by
  unfold Numeral.readDigits? at h
  cases s with
  | nil => simp at h
  | cons c s =>
    by_cases hc : c.isDigit
    · simp only [List.takeWhile_cons, hc, List.dropWhile_cons, if_true, List.isEmpty_cons,
        Bool.false_eq_true, if_false, Option.some.injEq, Prod.mk.injEq] at h
      have := length_dropWhile_le Char.isDigit s
      rw [← h.2, List.length_cons]
      omega
    · simp [hc] at h

theorem length_readWhole {s digits rest : List Char}
    (h : Numeral.readWhole? s = some (digits, rest)) : rest.length < s.length := by
  unfold Numeral.readWhole? at h
  split at h
  · simp at h
  · exact length_readDigits h

theorem length_readFraction {s digits rest : List Char}
    (h : Numeral.readFraction? s = some (digits, rest)) : rest.length ≤ s.length := by
  unfold Numeral.readFraction? at h
  split at h
  · have := length_readDigits h
    simp only [List.length_cons]
    omega
  · simp only [Option.some.injEq, Prod.mk.injEq] at h
    simp [h.2]

theorem length_readExponent {s rest : List Char} {e : Option Int}
    (h : Numeral.readExponent? s = some (e, rest)) : rest.length ≤ s.length := by
  have hsigned {s rest : List Char} {e : Int}
      (h : Numeral.readSignedDigits? s = some (e, rest)) : rest.length ≤ s.length := by
    unfold Numeral.readSignedDigits? at h
    split at h <;>
    · obtain ⟨⟨digits, r⟩, hd, he⟩ := Option.map_eq_some_iff.1 h
      have := length_readDigits hd
      cases he
      simp only [List.length_cons] at *
      omega
  unfold Numeral.readExponent? at h
  split at h
  · split at h
    · obtain ⟨⟨e', r⟩, hd, he⟩ := Option.map_eq_some_iff.1 h
      have := hsigned hd
      cases he
      simp only [List.length_cons]
      omega
    · simp only [Option.some.injEq, Prod.mk.injEq] at h
      simp [← h.2]
  · simp only [Option.some.injEq, Prod.mk.injEq] at h
    simp [← h.2]

theorem length_readNumeral {s rest : List Char} {n : Numeral}
    (h : Numeral.read? s = some (n, rest)) : rest.length < s.length := by
  have hunsigned {b : Bool} {s rest : List Char} {n : Numeral}
      (h : Numeral.readUnsigned? b s = some (n, rest)) : rest.length < s.length := by
    simp only [Numeral.readUnsigned?, Option.bind_eq_bind, Option.bind_eq_some_iff] at h
    obtain ⟨⟨whole, s₁⟩, h₁, ⟨fraction, s₂⟩, h₂, ⟨e, s₃⟩, h₃, he⟩ := h
    dsimp only at h₂ h₃
    have := length_readWhole h₁
    have := length_readFraction h₂
    have := length_readExponent h₃
    cases he
    dsimp only
    omega
  unfold Numeral.read? at h
  split at h
  · have := hunsigned h
    simp only [List.length_cons]
    omega
  · exact hunsigned h

theorem length_readFrom {c : Char} {s rest : List Char} {t : Token}
    (h : readFrom? c s = some (t, rest)) : rest.length ≤ s.length := by
  unfold readFrom? at h
  split at h
  case h_7 =>
    obtain ⟨⟨pieces, r⟩, hp, he⟩ := Option.map_eq_some_iff.1 h
    have := length_readPieces hp
    cases he
    omega
  case h_11 =>
    obtain ⟨⟨n, r⟩, hn, he⟩ := Option.map_eq_some_iff.1 h
    have := length_readNumeral hn
    cases he
    simp only [List.length_cons] at this
    omega
  all_goals
    simp only [Option.some.injEq, Prod.mk.injEq] at h
    simp only [← h.2, List.length_cons]
    omega

/-- Reading a token leaves a shorter text. -/
theorem length_read {s rest : List Char} {t : Token} (h : read? s = some (t, rest)) :
    rest.length < s.length := by
  unfold read? at h
  split at h
  · simp at h
  · rename_i c r hs
    have := length_readFrom h
    have hle := length_dropWhile_le isSpace s
    rw [hs, List.length_cons] at hle
    omega

end Token

end PluginCatalog.Json
