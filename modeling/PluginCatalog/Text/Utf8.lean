/-!
# UTF-8

`encode` writes a text as bytes, and `decode` reads bytes as a text as far as they are one. A
character takes one to four bytes; no character has a longer form than it needs, and the codes of
surrogates are no characters.
-/

namespace PluginCatalog.Utf8

/-- The bytes of a text. -/
def encode (s : List Char) : List UInt8 := s.flatMap String.utf8EncodeChar

/-- Whether a byte continues a character. -/
def isContinuation (b : UInt8) : Bool := 0x80 ≤ b.toNat && b.toNat < 0xC0

/-- The character with a code that needs at least the code `least` for its form. -/
def char? (least code : Nat) : Option Char :=
  if least ≤ code ∧ code.isValidChar then some (Char.ofNat code) else none

/-- The character that two bytes form. -/
def char₂? (a b : UInt8) : Option Char :=
  if isContinuation b then char? 0x80 ((a.toNat - 0xC0) * 64 + (b.toNat - 0x80)) else none

/-- The character that three bytes form. -/
def char₃? (a b c : UInt8) : Option Char :=
  if isContinuation b && isContinuation c then
    char? 0x800 (((a.toNat - 0xE0) * 64 + (b.toNat - 0x80)) * 64 + (c.toNat - 0x80))
  else none

/-- The character that four bytes form. -/
def char₄? (a b c d : UInt8) : Option Char :=
  if isContinuation b && isContinuation c && isContinuation d then
    char? 0x10000
      ((((a.toNat - 0xF0) * 64 + (b.toNat - 0x80)) * 64 + (c.toNat - 0x80)) * 64 + (d.toNat - 0x80))
  else none

/-- Puts a character in front of what was decoded. -/
def push (c : Char) (r : List Char × List UInt8) : List Char × List UInt8 := (c :: r.1, r.2)

/-- The longest text at the front of some bytes, and the bytes after it. -/
def decode : List UInt8 → List Char × List UInt8
  | [] => ([], [])
  | a :: s =>
    if a.toNat < 0x80 then push (Char.ofNat a.toNat) (decode s)
    else if a.toNat < 0xC0 then ([], a :: s)
    else if a.toNat < 0xE0 then
      match s with
      | b :: t =>
        match char₂? a b with
        | some ch => push ch (decode t)
        | none => ([], a :: b :: t)
      | [] => ([], [a])
    else if a.toNat < 0xF0 then
      match s with
      | b :: c :: t =>
        match char₃? a b c with
        | some ch => push ch (decode t)
        | none => ([], a :: b :: c :: t)
      | s => ([], a :: s)
    else if a.toNat < 0xF8 then
      match s with
      | b :: c :: d :: t =>
        match char₄? a b c d with
        | some ch => push ch (decode t)
        | none => ([], a :: b :: c :: d :: t)
      | s => ([], a :: s)
    else ([], a :: s)

/-- The text that some bytes are. -/
def text? (bytes : List UInt8) : Option (List Char) :=
  match decode bytes with
  | (s, []) => some s
  | (_, _ :: _) => none

/-- The text at the front of some bytes; the replacement character at its end stands for the bytes
from the first one that belongs to no character. -/
def leadingText (bytes : List UInt8) : List Char :=
  match decode bytes with
  | (s, []) => s
  | (s, _ :: _) => s ++ ['\uFFFD']

end PluginCatalog.Utf8
