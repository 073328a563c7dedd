/-!
# Characters in JSON strings

Between its quotes a JSON string holds plain characters and escapes. `readPieces?` reads up to the
closing quote; an escape by code can name half of a surrogate pair, so the parts are joined in a
second step (`joinPieces?`), which succeeds if every half has its partner beside it. `escape` writes a
text so that it reads back: quotes, backslashes and control characters are escaped, by a letter where
there is one, and all other characters stand for themselves.
-/

namespace PluginCatalog.Json

/-- A part of a string: a character, or half of a surrogate pair. -/
inductive Piece where
  | char (c : Char)
  | surrogate (unit : Nat)
  deriving DecidableEq

/-- The value of a hexadecimal digit. -/
def hexDigit? (c : Char) : Option Nat :=
  if c.isDigit then some (c.toNat - '0'.toNat)
  else if 'a' ≤ c ∧ c ≤ 'f' then some (c.toNat - 'a'.toNat + 10)
  else if 'A' ≤ c ∧ c ≤ 'F' then some (c.toNat - 'A'.toNat + 10)
  else none

/-- The part that four hexadecimal digits name. -/
def Piece.ofHex? (a b c d : Char) : Option Piece := do
  let a ← hexDigit? a
  let b ← hexDigit? b
  let c ← hexDigit? c
  let d ← hexDigit? d
  let unit := ((a * 16 + b) * 16 + c) * 16 + d
  return if 0xD800 ≤ unit ∧ unit ≤ 0xDFFF then surrogate unit else char (Char.ofNat unit)

/-- The character that a letter after a backslash names. -/
def unescape? : Char → Option Char
  | '"' => some '"'
  | '\\' => some '\\'
  | '/' => some '/'
  | 'b' => some '\x08'
  | 'f' => some '\x0c'
  | 'n' => some '\n'
  | 'r' => some '\r'
  | 't' => some '\t'
  | _ => none

/-- Reads the parts of a string up to and with the quote that ends it. -/
def readPieces? : List Char → Option (List Piece × List Char)
  | [] => none
  | '"' :: rest => some ([], rest)
  | '\\' :: 'u' :: a :: b :: c :: d :: rest => do
    let piece ← Piece.ofHex? a b c d
    let (pieces, rest) ← readPieces? rest
    return (piece :: pieces, rest)
  | '\\' :: c :: rest => do
    let c ← unescape? c
    let (pieces, rest) ← readPieces? rest
    return (.char c :: pieces, rest)
  | c :: rest =>
    if c = '\\' ∨ c.toNat < 0x20 then none
    else do
      let (pieces, rest) ← readPieces? rest
      return (.char c :: pieces, rest)

/-- Reading the parts of a string takes at least the closing quote. -/
theorem length_readPieces {s rest : List Char} {pieces : List Piece}
    (h : readPieces? s = some (pieces, rest)) : rest.length < s.length := by
  fun_induction readPieces? s generalizing pieces rest with
  | case1 => simp at h
  | case2 r =>
    simp only [Option.some.injEq, Prod.mk.injEq] at h
    simp [h.2]
  | case3 a b c d r ih =>
    simp only [Option.bind_eq_bind, Option.bind_eq_some_iff] at h
    obtain ⟨piece, -, ⟨pieces', r'⟩, h', he⟩ := h
    have := ih h'
    cases he
    simp only [List.length_cons]
    omega
  | case4 c r _ ih =>
    simp only [Option.bind_eq_bind, Option.bind_eq_some_iff] at h
    obtain ⟨piece, -, ⟨pieces', r'⟩, h', he⟩ := h
    have := ih h'
    cases he
    simp only [List.length_cons]
    omega
  | case5 => simp at h
  | case6 c r _ _ _ _ ih =>
    simp only [Option.bind_eq_bind, Option.bind_eq_some_iff] at h
    obtain ⟨⟨pieces', r'⟩, h', he⟩ := h
    have := ih h'
    cases he
    simp only [List.length_cons]
    omega

/-- The text of some parts, none if a surrogate has no partner. -/
def joinPieces? : List Piece → Option (List Char)
  | [] => some []
  | .char c :: rest => (joinPieces? rest).map (c :: ·)
  | .surrogate high :: .surrogate low :: rest =>
    if high < 0xDC00 ∧ 0xDC00 ≤ low then
      (joinPieces? rest).map
        (Char.ofNat (0x10000 + (high - 0xD800) * 0x400 + (low - 0xDC00)) :: ·)
    else none
  | .surrogate _ :: _ => none

/-- A number below 16 as a hexadecimal digit. -/
def hexDigit (n : Nat) : Char := Nat.digitChar n

/-- A character as it is written in a string. -/
def escapeChar (c : Char) : List Char :=
  match c with
  | '"' => ['\\', '"']
  | '\\' => ['\\', '\\']
  | '\x08' => ['\\', 'b']
  | '\x0c' => ['\\', 'f']
  | '\n' => ['\\', 'n']
  | '\r' => ['\\', 'r']
  | '\t' => ['\\', 't']
  | c =>
    if c.toNat < 0x20 then
      ['\\', 'u', '0', '0', hexDigit (c.toNat / 16), hexDigit (c.toNat % 16)]
    else [c]

/-- A text as it is written in a string. -/
def escape (s : List Char) : List Char := s.flatMap escapeChar

/-- A string with its quotes. -/
def quote (s : String) : List Char := '"' :: (escape s.toList ++ ['"'])

end PluginCatalog.Json
