import PluginCatalog.Binary64.Decimal
import PluginCatalog.Constraint.Expr
import PluginCatalog.Text.Basic
import PluginCatalog.Text.Letter

/-!
# Tokens of the constraint language

`Token.scan` cuts a constraint text into tokens: brackets, commas, operators, quoted strings without
escapes, decimal numbers and words. Blanks separate tokens and mean nothing else. A token records the
piece of the text that it was read from and the byte at which that piece begins, so the text is the
tokens' pieces with blanks around them.
-/

namespace PluginCatalog.Constraint

/-- The kinds of tokens with what they say. -/
inductive Lexeme where
  | openParen
  | closeParen
  | openBracket
  | closeBracket
  | comma
  | operator (op : Comparison)
  | string (s : String)
  | number (x : Binary64)
  | word (w : String)
  deriving DecidableEq, Inhabited

/-- Why a text has no token at some place. -/
inductive LexicalFault where
  /-- An operator character that is no operator by itself. -/
  | incompleteOperator (c : Char)
  /-- A string without its closing quote. -/
  | unterminatedString
  /-- Digits, points and signs that are no number. -/
  | invalidNumber (text : String)
  /-- A character that begins no token. -/
  | unexpectedCharacter (c : Char)
  deriving DecidableEq

/-- The wording of a fault. -/
def LexicalFault.message : LexicalFault → String
  | incompleteOperator c => "incomplete operator '" ++ String.singleton c ++ "'"
  | unterminatedString => "unterminated string literal"
  | invalidNumber text => "invalid number '" ++ text ++ "'"
  | unexpectedCharacter c => "unexpected character '" ++ String.singleton c ++ "'"

/-- Whether a word can begin with a character. -/
def isWordStart (c : Char) : Bool := Text.isAlphabetic c || c = '_'

/-- Whether a word can go on with a character. -/
def isWordPart (c : Char) : Bool :=
  Text.isAlphabetic c || Text.isNumeric c || c = '_' || c = '-' || c = '.' || c = '/' || c = ':'

/-- A token in its text. -/
structure Token where
  /-- What the token says. -/
  lexeme : Lexeme
  /-- The characters that the token was read from. -/
  piece : List Char
  /-- The byte of the text at which the piece begins. -/
  start : Nat
  deriving DecidableEq, Inhabited

namespace Lexeme

/-- What reading a lexeme gives: the lexeme, the characters it took and those that follow. -/
abbrev Reading := Lexeme × List Char × List Char

/-- Reads the operator that begins with `=`, `!`, `<` or `>`. -/
def readOperator (c : Char) (s : List Char) : Except LexicalFault Reading :=
  match c, s with
  | '=', '=' :: r => .ok (operator .eq, ['=', '='], r)
  | '!', '=' :: r => .ok (operator .ne, ['!', '='], r)
  | '<', '=' :: r => .ok (operator .le, ['<', '='], r)
  | '>', '=' :: r => .ok (operator .ge, ['>', '='], r)
  | '<', r => .ok (operator .lt, ['<'], r)
  | '>', r => .ok (operator .gt, ['>'], r)
  | c, _ => .error (.incompleteOperator c)

/-- Reads a string after its opening quote. The same quote closes it, and there are no escapes. -/
def readString (quote : Char) (s : List Char) : Except LexicalFault Reading :=
  let content := s.takeWhile (· ≠ quote)
  match s.dropWhile (· ≠ quote) with
  | [] => .error .unterminatedString
  | _ :: r => .ok (string (String.ofList content), quote :: (content ++ [quote]), r)

/-- The characters of a number after its first: digits with at most one point. -/
def numberTail (s : List Char) : List Char :=
  let whole := s.takeWhile Char.isDigit
  match s.dropWhile Char.isDigit with
  | '.' :: r => whole ++ '.' :: r.takeWhile Char.isDigit
  | _ => whole

/-- Reads a number by its first character, a digit or the minus sign. -/
def readNumber (c : Char) (s : List Char) : Except LexicalFault Reading :=
  let piece := c :: numberTail s
  match Binary64.ofText? piece with
  | some x => .ok (number x, piece, s.drop (numberTail s).length)
  | none => .error (.invalidNumber (String.ofList piece))

/-- Reads a word by its first character. -/
def readWord (c : Char) (s : List Char) : Reading :=
  let piece := c :: s.takeWhile isWordPart
  (word (String.ofList piece), piece, s.dropWhile isWordPart)

/-- Reads the lexeme that begins with a character that is no blank. -/
def read (c : Char) (s : List Char) : Except LexicalFault Reading :=
  if c = '(' then .ok (openParen, ['('], s)
  else if c = ')' then .ok (closeParen, [')'], s)
  else if c = '[' then .ok (openBracket, ['['], s)
  else if c = ']' then .ok (closeBracket, [']'], s)
  else if c = ',' then .ok (comma, [','], s)
  else if c = '=' ∨ c = '!' ∨ c = '<' ∨ c = '>' then readOperator c s
  else if c = '\'' ∨ c = '"' then readString c s
  else if c.isDigit ∨ c = '-' then readNumber c s
  else if isWordStart c then .ok (readWord c s)
  else .error (.unexpectedCharacter c)

/-! ## A reading splits its text -/

/-- The characters of a number's tail are the first ones of the text. -/
theorem numberTail_append_drop (s : List Char) :
    numberTail s ++ s.drop (numberTail s).length = s := by
  have hinit : numberTail s <+: s := by
    have htake (p : Char → Bool) (l : List Char) : l.takeWhile p <+: l := List.takeWhile_prefix p
    unfold numberTail
    dsimp only
    split
    · rename_i r hr
      obtain ⟨t, ht⟩ := htake Char.isDigit r
      refine ⟨t, ?_⟩
      have := List.takeWhile_append_dropWhile (p := Char.isDigit) (l := s)
      rw [hr] at this
      rw [List.append_assoc, List.cons_append, ht, this]
    · exact htake _ _
  obtain ⟨t, ht⟩ := hinit
  have hdrop : s.drop (numberTail s).length = t := by
    have := congrArg (List.drop (numberTail s).length) ht
    simpa using this.symm
  rw [hdrop, ht]

section Split

variable {c : Char} {s piece rest : List Char} {lexeme : Lexeme}

/-- An operator is one character or two. -/
theorem readOperator_split (h : readOperator c s = .ok (lexeme, piece, rest)) :
    piece ++ rest = c :: s ∧ piece ≠ [] := by
  unfold readOperator at h
  split at h <;> cases h <;> simp

/-- A string is its content between two quotes. -/
theorem readString_split (h : readString c s = .ok (lexeme, piece, rest)) :
    piece ++ rest = c :: s ∧ piece ≠ [] := by
  unfold readString at h
  dsimp only at h
  split at h
  · cases h
  · rename_i q r hr
    cases h
    -- What ends the content is the quote that began the string.
    have hq : q = c := by
      have hstop := List.head?_dropWhile_not (· ≠ c) s
      rw [hr] at hstop
      simpa using hstop
    have hcontent := List.takeWhile_append_dropWhile (p := (· ≠ c)) (l := s)
    rw [hr, hq] at hcontent
    rw [List.cons_append, List.append_assoc]
    exact ⟨congrArg _ hcontent, List.cons_ne_nil _ _⟩

/-- A number is its first character and its tail. -/
theorem readNumber_split (h : readNumber c s = .ok (lexeme, piece, rest)) :
    piece ++ rest = c :: s ∧ piece ≠ [] := by
  unfold readNumber at h
  dsimp only at h
  split at h
  · cases h
    simp [numberTail_append_drop]
  · cases h

/-- What a reading took, followed by what it left, is the text that it was given, and it took
something. -/
theorem read_split (h : read c s = .ok (lexeme, piece, rest)) :
    piece ++ rest = c :: s ∧ piece ≠ [] := by
  unfold read at h
  -- The five marks are the character itself.
  split at h
  · cases h; simp [*]
  split at h
  · cases h; simp [*]
  split at h
  · cases h; simp [*]
  split at h
  · cases h; simp [*]
  split at h
  · cases h; simp [*]
  split at h
  · exact readOperator_split h
  split at h
  · exact readString_split h
  split at h
  · exact readNumber_split h
  split at h
  · unfold readWord at h
    cases h
    simp
  · cases h

end Split

/-- Reading leaves no more than what follows the first character. -/
theorem length_read {c : Char} {s piece rest : List Char} {lexeme : Lexeme}
    (h : read c s = .ok (lexeme, piece, rest)) : rest.length ≤ s.length := by
  obtain ⟨hsplit, hne⟩ := read_split h
  have hlen := congrArg List.length hsplit
  have := List.length_pos_iff.2 hne
  simp only [List.length_append, List.length_cons] at hlen
  omega

end Lexeme

namespace Token

/-- The tokens of a text that begins at byte `start`, or the first place without a token. -/
def scanFrom (start : Nat) (s : List Char) : Except (Nat × LexicalFault) (List Token) :=
  match s with
  | [] => .ok []
  | c :: cs =>
    if Text.isBlank c then scanFrom (start + c.utf8Size) cs
    else
      match _ : Lexeme.read c cs with
      | .error fault => .error (start, fault)
      | .ok (lexeme, piece, rest) =>
        match scanFrom (start + Text.byteLength piece) rest with
        | .error e => .error e
        | .ok tokens => .ok (⟨lexeme, piece, start⟩ :: tokens)
termination_by s.length
decreasing_by
  · simp
  · have := Lexeme.length_read ‹_›
    simp only [List.length_cons]
    omega

/-- The tokens of a text, or the first place without a token. -/
def scan (s : List Char) : Except (Nat × LexicalFault) (List Token) := scanFrom 0 s

end Token

end PluginCatalog.Constraint
