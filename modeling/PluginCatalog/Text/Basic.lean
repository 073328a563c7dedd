/-!
# Texts

What constraints, metadata, paths and tags are written in. A blank is a character of the Unicode
property White_Space; `trim` takes the blanks off both ends of a text. `splitBy` cuts a text at every
character of a class, and `separated` puts texts together again. Words can be compared without regard
to the case of ASCII letters, and places in a text are counted in bytes of UTF-8 (`byteLength`).
-/

namespace PluginCatalog.Text

/-! ## Blanks -/

/-- Whether a code point lies in one of some ranges, both ends included. -/
def inRanges (ranges : List (Nat × Nat)) (n : Nat) : Bool :=
  ranges.any fun r => r.1 ≤ n && n ≤ r.2

/-- The ranges of White_Space. -/
def blankRanges : List (Nat × Nat) :=
  [(0x9, 0xD), (0x20, 0x20), (0x85, 0x85), (0xA0, 0xA0), (0x1680, 0x1680), (0x2000, 0x200A),
   (0x2028, 0x2029), (0x202F, 0x202F), (0x205F, 0x205F), (0x3000, 0x3000)]

/-- Whether a character is a blank. -/
def isBlank (c : Char) : Bool := inRanges blankRanges c.toNat

/-- A text without its leading blanks. -/
def trimStart (s : List Char) : List Char := s.dropWhile isBlank

/-- A text without its trailing blanks. -/
def trimEnd (s : List Char) : List Char := (s.reverse.dropWhile isBlank).reverse

/-- A text without the blanks at both ends. -/
def trim (s : List Char) : List Char := trimEnd (trimStart s)

/-- A string without the blanks at both ends. -/
def trimmed (s : String) : String := String.ofList (trim s.toList)

/-! ## Splitting and joining -/

/-- The pieces of a text between the characters of a class, in order and with empty pieces kept. -/
def splitBy (p : Char → Bool) : List Char → List (List Char)
  | [] => [[]]
  | c :: cs =>
    if p c then [] :: splitBy p cs
    else
      match splitBy p cs with
      | [] => [[c]]
      | piece :: pieces => (c :: piece) :: pieces

/-- There is always a first piece. -/
theorem splitBy_ne_nil (p : Char → Bool) (s : List Char) : splitBy p s ≠ [] := by
  cases s with
  | nil => simp [splitBy]
  | cons c cs =>
    simp only [splitBy]
    split
    · simp
    · split <;> simp

/-- A character of the class ends one piece and begins another. -/
theorem splitBy_append_cons {p : Char → Bool} {c : Char} (hc : p c = true) (a b : List Char) :
    splitBy p (a ++ c :: b) = splitBy p a ++ splitBy p b := by
  induction a with
  | nil => simp [splitBy, hc]
  | cons d a ih =>
    simp only [List.cons_append, splitBy]
    split
    · rw [ih, List.cons_append]
    · rw [ih]
      cases h : splitBy p a with
      | nil => exact absurd h (splitBy_ne_nil p a)
      | cons piece pieces => simp

/-- A text with no character of the class is one piece. -/
theorem splitBy_of_forall {p : Char → Bool} {s : List Char} (h : ∀ c ∈ s, p c = false) :
    splitBy p s = [s] := by
  induction s with
  | nil => rfl
  | cons c s ih =>
    rw [splitBy, if_neg (by simp [h c List.mem_cons_self]),
      ih fun d hd => h d (List.mem_cons_of_mem c hd)]

/-- Texts one after another with a separator between each two. -/
def separated (separator : List Char) : List (List Char) → List Char
  | [] => []
  | [s] => s
  | s :: rest => s ++ separator ++ separated separator rest

/-! ## Bytes -/

/-- The number of bytes of a text in UTF-8. -/
def byteLength : List Char → Nat
  | [] => 0
  | c :: s => c.utf8Size + byteLength s

/-- The bytes of texts one after another. -/
theorem byteLength_append (s t : List Char) : byteLength (s ++ t) = byteLength s + byteLength t := by
  induction s with
  | nil => simp [byteLength]
  | cons c s ih => simp [byteLength, ih, Nat.add_assoc]

/-! ## Case -/

/-- A text with its ASCII letters in lower case. -/
def foldCase (s : String) : List Char := s.toList.map Char.toLower

/-- Whether two texts agree up to the case of ASCII letters. -/
def sameWord (s t : String) : Bool := foldCase s = foldCase t

/-- A text is the same word as itself. -/
theorem sameWord_refl (s : String) : sameWord s s = true := by simp [sameWord]

end PluginCatalog.Text
