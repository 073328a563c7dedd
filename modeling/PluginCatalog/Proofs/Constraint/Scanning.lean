import Mathlib.Data.List.TakeWhile
import PluginCatalog.Constraint.Token
import PluginCatalog.Proofs.Text.Runs

/-!
# Scanning a text in its context

Tokens are as long as possible, so the tokens of a text may change when more text follows. They stay
if what follows begins with a character that no token goes on with (`EndsToken`): a blank, a
bracket, a comma, a quote. Then scanning the longer text gives the tokens of the first part and
after them those of the second (`Token.scanFrom_append`), with positions counted from where each
part begins (`Token.scanFrom_shift`). What is shown of all texts that have tokens goes by one induction
over them (`Token.scanFrom_induction`). `Scans` keeps of this the lexemes, which is what the grammar
sees.
-/

namespace PluginCatalog.Constraint

/-! ## Classes of characters -/

/-- The blanks are no parts of words. -/
theorem isWordPart_of_isBlank {c : Char} (h : Text.isBlank c = true) : isWordPart c = false := by
  -- There are few blanks, so each is looked up.
  have hcodes : ∀ r ∈ Text.blankRanges, ∀ n ∈ List.range' r.1 (r.2 + 1 - r.1),
      isWordPart (Char.ofNat n) = false := by decide +kernel
  obtain ⟨r, hr, hc⟩ := List.any_eq_true.1 h
  simp only [Bool.and_eq_true, decide_eq_true_eq] at hc
  have hmem : c.toNat ∈ List.range' r.1 (r.2 + 1 - r.1) := by
    rw [List.mem_range'_1]
    omega
  have := hcodes r hr c.toNat hmem
  rwa [Char.ofNat_toNat] at this

/-- The characters that can begin a word can also go on with one. -/
theorem isWordPart_of_isWordStart {c : Char} (h : isWordStart c = true) : isWordPart c = true := by
  simp only [isWordStart, Bool.or_eq_true, decide_eq_true_eq] at h
  rcases h with h | h <;> simp [isWordPart, h]

/-- The decimal digits are ten. -/
theorem mem_digits {c : Char} (h : c.isDigit = true) :
    c ∈ ['0', '1', '2', '3', '4', '5', '6', '7', '8', '9'] := by
  obtain ⟨hlo, hhi⟩ := Bool.and_eq_true_iff.1 h
  have hlo : (48 : Nat) ≤ c.toNat := UInt32.le_iff_toNat_le.1 (of_decide_eq_true hlo)
  have hhi : c.toNat ≤ (57 : Nat) := UInt32.le_iff_toNat_le.1 (of_decide_eq_true hhi)
  have hmem : c.toNat ∈ List.range' 48 10 := by
    rw [List.mem_range'_1]
    omega
  have hcodes : ∀ n ∈ List.range' 48 10,
      Char.ofNat n ∈ ['0', '1', '2', '3', '4', '5', '6', '7', '8', '9'] := by decide +kernel
  have := hcodes c.toNat hmem
  rwa [Char.ofNat_toNat] at this

/-- The decimal digits are parts of words. -/
theorem isWordPart_of_isDigit {c : Char} (h : c.isDigit = true) : isWordPart c = true := by
  have hdigits : ['0', '1', '2', '3', '4', '5', '6', '7', '8', '9'].all isWordPart = true := by
    decide
  exact List.all_eq_true.1 hdigits c (mem_digits h)

/-- A digit begins no word. -/
theorem isWordStart_of_isDigit {c : Char} (h : c.isDigit = true) : isWordStart c = false := by
  have hdigits : ['0', '1', '2', '3', '4', '5', '6', '7', '8', '9'].all (!isWordStart ·) = true := by
    decide
  simpa using List.all_eq_true.1 hdigits c (mem_digits h)

/-- A text that no token goes on with. -/
def EndsToken (s : List Char) : Prop := ∀ c ∈ s.head?, isWordPart c = false ∧ c ≠ '='

/-- Nothing follows at the end. -/
theorem endsToken_nil : EndsToken [] := by simp [EndsToken]

/-- A text that begins with a blank. -/
theorem endsToken_of_isBlank {c : Char} (h : Text.isBlank c = true) (s : List Char) :
    EndsToken (c :: s) := by
  intro d hd
  obtain rfl : c = d := by simpa using hd
  refine ⟨isWordPart_of_isBlank h, ?_⟩
  rintro rfl
  exact absurd h (by decide)

namespace Lexeme

/-- No word goes on. -/
theorem isWordPart_head {r : List Char} (h : EndsToken r) : ∀ c ∈ r.head?, isWordPart c = false :=
  fun c hc => (h c hc).1

/-- No digits go on. -/
theorem isDigit_head {r : List Char} (h : EndsToken r) : ∀ c ∈ r.head?, c.isDigit = false := by
  intro c hc
  cases hd : c.isDigit with
  | false => rfl
  | true =>
    have := isWordPart_of_isDigit hd
    rw [isWordPart_head h c hc] at this
    cases this

/-- An operator stays. -/
theorem readOperator_append {c : Char} {s piece rest r : List Char} {lexeme : Lexeme}
    (h : readOperator c s = .ok (lexeme, piece, rest)) (hr : EndsToken r) :
    readOperator c (s ++ r) = .ok (lexeme, piece, rest ++ r) := by
  -- A single `<` or `>` stays single, since what follows does not begin with `=`.
  have hne (t : List Char) (hs : ∀ t, s = '=' :: t → False) : s ++ r ≠ '=' :: t := by
    cases s with
    | nil =>
      rintro rfl
      exact (hr '=' rfl).2 rfl
    | cons d s =>
      intro ht
      exact hs s (by rw [(List.cons.inj ht).1])
  unfold readOperator at h
  split at h <;> cases h
  · rfl
  · rfl
  · rfl
  · rfl
  · rename_i hs
    unfold readOperator
    split <;> simp_all
  · rename_i hs
    unfold readOperator
    split <;> simp_all

/-- A string stays, whatever follows. -/
theorem readString_append {c : Char} {s piece rest : List Char} {lexeme : Lexeme}
    (h : readString c s = .ok (lexeme, piece, rest)) (r : List Char) :
    readString c (s ++ r) = .ok (lexeme, piece, rest ++ r) := by
  unfold readString at h ⊢
  dsimp only at h ⊢
  split at h
  · cases h
  · rename_i q rest' hq
    cases h
    -- The closing quote is in the text itself, so the content ends before it.
    have hlen : (s.takeWhile (· ≠ c)).length ≠ s.length := by
      intro hlen
      have := congrArg List.length (List.takeWhile_append_dropWhile (p := (· ≠ c)) (l := s))
      simp only [List.length_append, hlen, hq, List.length_cons] at this
      omega
    rw [List.takeWhile_append, if_neg hlen, List.dropWhile_append, hq]
    rfl

/-- The tail of a number stays. -/
theorem numberTail_append {s r : List Char} (hr : EndsToken r) :
    numberTail (s ++ r) = numberTail s := by
  -- A point is a part of words, so none follows.
  have hdot (t : List Char) : r ≠ '.' :: t := by
    rintro rfl
    exact absurd (isWordPart_head hr '.' rfl) (by decide)
  unfold numberTail
  rw [Text.takeWhile_append_of_head (isDigit_head hr), Text.dropWhile_append_of_head (isDigit_head hr)]
  dsimp only
  cases s.dropWhile Char.isDigit with
  | nil =>
    split
    · exact absurd ‹_› (hdot _)
    · rfl
  | cons d t =>
    rw [List.cons_append]
    by_cases hd : d = '.'
    · subst hd
      show s.takeWhile Char.isDigit ++ '.' :: (t ++ r).takeWhile Char.isDigit
        = s.takeWhile Char.isDigit ++ '.' :: t.takeWhile Char.isDigit
      rw [Text.takeWhile_append_of_head (isDigit_head hr)]
    · split <;> split <;> simp_all

/-- A number stays. -/
theorem readNumber_append {c : Char} {s piece rest r : List Char} {lexeme : Lexeme}
    (h : readNumber c s = .ok (lexeme, piece, rest)) (hr : EndsToken r) :
    readNumber c (s ++ r) = .ok (lexeme, piece, rest ++ r) := by
  unfold readNumber at h ⊢
  dsimp only at h ⊢
  rw [numberTail_append hr]
  split at h
  · cases h
    have hle : (numberTail s).length ≤ s.length := by
      have := congrArg List.length (numberTail_append_drop s)
      rw [List.length_append] at this
      omega
    rw [List.drop_append_of_le_length hle]
  · cases h

/-- A word stays. -/
theorem readWord_append {c : Char} {s r : List Char} (hr : EndsToken r) :
    readWord c (s ++ r)
      = ((readWord c s).1, (readWord c s).2.1, (readWord c s).2.2 ++ r) := by
  unfold readWord
  dsimp only
  rw [Text.takeWhile_append_of_head (isWordPart_head hr), Text.dropWhile_append_of_head (isWordPart_head hr)]

/-- The lexemes of one character. -/
def marks : List Lexeme := [openParen, closeParen, openBracket, closeBracket, comma]

/-- The first character of a lexeme says how it is read: a mark alone, or one of the longer lexemes.
-/
theorem read_cases (c : Char) :
    (∃ lexeme ∈ marks, read c = fun s => .ok (lexeme, [c], s)) ∨ read c = readOperator c ∨
      ((c = '\'' ∨ c = '"') ∧ read c = readString c) ∨
      ((c.isDigit = true ∨ c = '-') ∧ read c = readNumber c) ∨
      (isWordStart c = true ∧ read c = fun s => .ok (readWord c s)) ∨
      read c = fun _ => .error (.unexpectedCharacter c) := by
  by_cases h : c = '('
  · exact .inl ⟨openParen, by simp [marks], funext fun s => by simp [read, h]⟩
  by_cases h : c = ')'
  · exact .inl ⟨closeParen, by simp [marks], funext fun s => by simp [read, h]⟩
  by_cases h : c = '['
  · exact .inl ⟨openBracket, by simp [marks], funext fun s => by simp [read, h]⟩
  by_cases h : c = ']'
  · exact .inl ⟨closeBracket, by simp [marks], funext fun s => by simp [read, h]⟩
  by_cases h : c = ','
  · exact .inl ⟨comma, by simp [marks], funext fun s => by simp [read, h]⟩
  by_cases ho : c = '=' ∨ c = '!' ∨ c = '<' ∨ c = '>'
  · exact .inr (.inl (funext fun s => by simp [read, *]))
  by_cases hs : c = '\'' ∨ c = '"'
  · exact .inr (.inr (.inl ⟨hs, funext fun s => by simp [read, *]⟩))
  by_cases hn : c.isDigit ∨ c = '-'
  · exact .inr (.inr (.inr (.inl ⟨hn, funext fun s => by simp [read, *]⟩)))
  by_cases hw : isWordStart c
  · exact .inr (.inr (.inr (.inr (.inl ⟨hw, funext fun s => by simp [read, *]⟩))))
  · exact .inr (.inr (.inr (.inr (.inr (funext fun s => by simp [read, *])))))

/-- What has been read stays if no token goes on with what follows. -/
theorem read_append {c : Char} {s piece rest r : List Char} {lexeme : Lexeme}
    (h : read c s = .ok (lexeme, piece, rest)) (hr : EndsToken r) :
    read c (s ++ r) = .ok (lexeme, piece, rest ++ r) := by
  rcases read_cases c with ⟨l, -, hc⟩ | hc | ⟨-, hc⟩ | ⟨-, hc⟩ | ⟨-, hc⟩ | hc <;> rw [hc] at h ⊢
  · cases h
    rfl
  · exact readOperator_append h hr
  · exact readString_append h r
  · exact readNumber_append h hr
  · dsimp only at h ⊢
    rw [readWord_append hr]
    cases h
    rfl
  · cases h

end Lexeme

/-! ## Texts in their context -/

namespace Token

/-- The token at a later place. -/
def shift (n : Nat) (t : Token) : Token := { t with start := t.start + n }

/-- The empty text has no tokens. -/
theorem scanFrom_nil (start : Nat) : scanFrom start [] = .ok [] := by
  rw [scanFrom]

/-- Blanks before a text only move its tokens. -/
theorem scanFrom_blank {c : Char} (h : Text.isBlank c = true) (start : Nat) (s : List Char) :
    scanFrom start (c :: s) = scanFrom (start + c.utf8Size) s := by
  rw [scanFrom, if_pos h]

/-- Where no lexeme can be read, a text has no tokens. -/
theorem scanFrom_error {c : Char} {s : List Char} {fault : LexicalFault}
    (h : Text.isBlank c = false) (hr : Lexeme.read c s = .error fault) (start : Nat) :
    scanFrom start (c :: s) = .error (start, fault) := by
  rw [scanFrom, if_neg (by simp [h])]
  split <;> simp_all

/-- A lexeme that can be read is the first token. -/
theorem scanFrom_ok {c : Char} {s piece rest : List Char} {lexeme : Lexeme}
    (h : Text.isBlank c = false) (hr : Lexeme.read c s = .ok (lexeme, piece, rest)) (start : Nat) :
    scanFrom start (c :: s)
      = (scanFrom (start + Text.byteLength piece) rest).map (⟨lexeme, piece, start⟩ :: ·) := by
  rw [scanFrom, if_neg (by simp [h])]
  split
  · simp_all
  · rename_i hr'
    rw [hr] at hr'
    cases hr'
    cases scanFrom (start + Text.byteLength piece) rest <;> rfl

/-- Positions are counted from where a text begins. -/
theorem scanFrom_shift (n start : Nat) (s : List Char) :
    scanFrom (start + n) s
      = ((scanFrom start s).mapError fun e => (e.1 + n, e.2)).map (·.map (shift n)) := by
  induction start, s using scanFrom.induct with
  | case1 start =>
    rw [scanFrom, scanFrom]
    rfl
  | case2 start c cs hc ih =>
    rw [scanFrom_blank hc, scanFrom_blank hc, ← ih, Nat.add_right_comm]
  | case3 start c cs hc fault hr =>
    have hc : Text.isBlank c = false := by simpa using hc
    rw [scanFrom_error hc hr, scanFrom_error hc hr]
    rfl
  | case4 start c cs hc lexeme piece rest hr _ _ ih
  | case5 start c cs hc lexeme piece rest hr _ _ ih =>
    have hc : Text.isBlank c = false := by simpa using hc
    rw [scanFrom_ok hc hr, scanFrom_ok hc hr, Nat.add_right_comm, ih]
    cases scanFrom (start + Text.byteLength piece) rest <;> rfl

/-- Induction over a text that has tokens: there is nothing left, or a blank, or the piece of a token. -/
@[elab_as_elim]
theorem scanFrom_induction {motive : ∀ start s tokens, scanFrom start s = .ok tokens → Prop}
    (nil : ∀ start, motive start [] [] (scanFrom_nil start))
    (blank : ∀ {start c cs tokens} (hc : Text.isBlank c = true)
      (hcs : scanFrom (start + c.utf8Size) cs = .ok tokens),
      motive _ _ _ hcs → motive start (c :: cs) tokens (by rw [scanFrom_blank hc, hcs]))
    (token : ∀ {start c cs lexeme piece rest tokens} (hc : Text.isBlank c = false)
      (hread : Lexeme.read c cs = .ok (lexeme, piece, rest))
      (hrest : scanFrom (start + Text.byteLength piece) rest = .ok tokens),
      motive _ _ _ hrest →
        motive start (c :: cs) (⟨lexeme, piece, start⟩ :: tokens)
          (by rw [scanFrom_ok hc hread, hrest]; rfl))
    {start : Nat} {s : List Char} {tokens : List Token} (h : scanFrom start s = .ok tokens) :
    motive start s tokens h := by
  induction start, s using scanFrom.induct generalizing tokens with
  | case1 start =>
    obtain rfl : [] = tokens := by simpa [scanFrom_nil] using h
    exact nil start
  | case2 start c cs hc ih =>
    have hcs := h
    rw [scanFrom_blank hc] at hcs
    exact blank hc hcs (ih hcs)
  | case3 start c cs hc fault hread =>
    rw [scanFrom_error (by simpa using hc) hread] at h
    cases h
  | case4 start c cs hc lexeme piece rest hread _ hrest ih =>
    rw [scanFrom_ok (by simpa using hc) hread, hrest] at h
    cases h
  | case5 start c cs hc lexeme piece rest hread tokens' hrest ih =>
    have hc : Text.isBlank c = false := by simpa using hc
    obtain rfl : ⟨lexeme, piece, start⟩ :: tokens' = tokens := by
      rw [scanFrom_ok hc hread, hrest] at h
      exact Except.ok.inj h
    exact token hc hread hrest (ih hrest)

/-- The tokens of a text stay, and those of what follows come after them, if no token goes on. -/
theorem scanFrom_append {start : Nat} {s r : List Char} {tokens : List Token}
    (h : scanFrom start s = .ok tokens) (hr : EndsToken r) :
    scanFrom start (s ++ r)
      = (scanFrom (start + Text.byteLength s) r).map (tokens ++ ·) := by
  induction h using scanFrom_induction with
  | nil start =>
    show scanFrom start r = (scanFrom start r).map id
    cases scanFrom start r <;> rfl
  | blank hc _ ih =>
    rw [List.cons_append, scanFrom_blank hc, ih, Text.byteLength, Nat.add_assoc]
  | @token start c cs lexeme piece rest tokens hc hread _ ih =>
    -- The piece and the rest are the text, so what follows begins as many bytes later.
    have hbytes : Text.byteLength (c :: cs) = Text.byteLength piece + Text.byteLength rest := by
      rw [← (Lexeme.read_split hread).1, Text.byteLength_append]
    rw [List.cons_append, scanFrom_ok hc (Lexeme.read_append hread hr), ih, hbytes, Nat.add_assoc]
    cases scanFrom (start + (Text.byteLength piece + Text.byteLength rest)) r <;> rfl

end Token

/-! ## Lexemes -/

/-- The lexemes of a text, wherever it begins. -/
def Scans (s : List Char) (ls : List Lexeme) : Prop :=
  ∃ tokens, Token.scan s = .ok tokens ∧ tokens.map (·.lexeme) = ls

namespace Scans

/-- Scanning from any place gives the same lexemes. -/
theorem iff_scanFrom {s : List Char} {ls : List Lexeme} (start : Nat) :
    Scans s ls ↔
      ∃ tokens, Token.scanFrom start s = .ok tokens ∧ tokens.map (·.lexeme) = ls := by
  have hshift := Token.scanFrom_shift start 0 s
  rw [Nat.zero_add] at hshift
  rw [Scans, Token.scan, hshift]
  constructor
  · rintro ⟨tokens, hs, rfl⟩
    rw [hs]
    exact ⟨_, rfl, List.map_map⟩
  · rintro ⟨tokens, hs, rfl⟩
    cases hscan : Token.scanFrom 0 s with
    | error e =>
      rw [hscan] at hs
      cases hs
    | ok tokens' =>
      rw [hscan] at hs
      cases hs
      rw [List.map_map]
      exact ⟨tokens', rfl, rfl⟩

/-- The lexemes of a text are determined. -/
theorem unique {s : List Char} {ls ls' : List Lexeme} (h : Scans s ls) (h' : Scans s ls') :
    ls = ls' := by
  obtain ⟨tokens, hs, rfl⟩ := h
  obtain ⟨tokens', hs', rfl⟩ := h'
  rw [hs] at hs'
  cases hs'
  rfl

/-- Nothing has no lexemes. -/
theorem nil : Scans [] [] := ⟨[], by rw [Token.scan, Token.scanFrom], rfl⟩

/-- A blank before a text has no lexeme. -/
theorem blank_iff {c : Char} {s : List Char} {ls : List Lexeme} (hc : Text.isBlank c = true) :
    Scans (c :: s) ls ↔ Scans s ls := by
  rw [Scans, Token.scan, Token.scanFrom_blank hc, iff_scanFrom]

/-- A lexeme that can be read is the first one. -/
theorem cons_iff {c : Char} {s piece rest : List Char} {lexeme : Lexeme} {ls : List Lexeme}
    (hc : Text.isBlank c = false) (hr : Lexeme.read c s = .ok (lexeme, piece, rest)) :
    Scans (c :: s) ls ↔ ∃ ls', Scans rest ls' ∧ ls = lexeme :: ls' := by
  rw [Scans, Token.scan, Token.scanFrom_ok hc hr]
  constructor
  · rintro ⟨tokens, hs, rfl⟩
    cases hrest : Token.scanFrom (0 + Text.byteLength piece) rest with
    | error e =>
      rw [hrest] at hs
      cases hs
    | ok tokens' =>
      rw [hrest] at hs
      cases hs
      exact ⟨_, (iff_scanFrom _).2 ⟨tokens', hrest, rfl⟩, rfl⟩
  · rintro ⟨ls', hls', rfl⟩
    obtain ⟨tokens, hs, rfl⟩ := (iff_scanFrom (0 + Text.byteLength piece)).1 hls'
    rw [hs]
    exact ⟨_, rfl, rfl⟩

/-- A text cannot be scanned if its first lexeme cannot be read. -/
theorem not_of_error {c : Char} {s : List Char} {fault : LexicalFault} {ls : List Lexeme}
    (hc : Text.isBlank c = false) (hr : Lexeme.read c s = .error fault) : ¬Scans (c :: s) ls := by
  rintro ⟨tokens, hs, -⟩
  rw [Token.scan, Token.scanFrom_error hc hr] at hs
  cases hs

/-- The lexemes of a text that can be scanned come before those of what follows, if no token goes
on. -/
theorem append_iff {s r : List Char} {ls ls' : List Lexeme} (h : Scans s ls) (hr : EndsToken r) :
    Scans (s ++ r) ls' ↔ ∃ ls'', Scans r ls'' ∧ ls' = ls ++ ls'' := by
  obtain ⟨tokens, hs, rfl⟩ := h
  rw [Token.scan] at hs
  rw [Scans, Token.scan, Token.scanFrom_append hs hr]
  constructor
  · rintro ⟨tokens', hs', rfl⟩
    cases hrest : Token.scanFrom (0 + Text.byteLength s) r with
    | error e =>
      rw [hrest] at hs'
      cases hs'
    | ok tokens'' =>
      rw [hrest] at hs'
      cases hs'
      exact ⟨_, (iff_scanFrom _).2 ⟨tokens'', hrest, rfl⟩, by simp⟩
  · rintro ⟨ls'', hls'', rfl⟩
    obtain ⟨tokens', hs', rfl⟩ := (iff_scanFrom (0 + Text.byteLength s)).1 hls''
    rw [hs']
    exact ⟨_, rfl, by simp⟩

/-- The lexemes of two texts with a blank between them are those of the one and then of the other. -/
theorem append_blank {s r : List Char} {ls ls' : List Lexeme} (h : Scans s ls) (h' : Scans r ls') :
    Scans (s ++ ' ' :: r) (ls ++ ls') := by
  have hblank : Text.isBlank ' ' = true := by decide
  exact (append_iff h (endsToken_of_isBlank hblank r)).2 ⟨ls', (blank_iff hblank).2 h', rfl⟩

end Scans

/-! ## Words -/

/-- Whether a text is a word. -/
def isWord : List Char → Bool
  | [] => false
  | c :: s => isWordStart c && s.all isWordPart

/-- A blank begins no word. -/
theorem isBlank_of_isWordStart {c : Char} (h : isWordStart c = true) : Text.isBlank c = false := by
  cases hb : Text.isBlank c with
  | false => rfl
  | true =>
    have := isWordPart_of_isBlank hb
    rw [isWordPart_of_isWordStart h] at this
    cases this

/-- Where a word begins, a word is read. -/
theorem Lexeme.read_of_isWordStart {c : Char} (h : isWordStart c = true) (s : List Char) :
    read c s = .ok (readWord c s) := by
  have hne (d : Char) (hd : isWordStart d = false) : c ≠ d := by
    rintro rfl
    rw [h] at hd
    cases hd
  have hdigit : c.isDigit = false := by
    cases hc : c.isDigit with
    | false => rfl
    | true =>
      rw [isWordStart_of_isDigit hc] at h
      cases h
  unfold read
  rw [if_neg (hne _ (by decide)), if_neg (hne _ (by decide)), if_neg (hne _ (by decide)),
    if_neg (hne _ (by decide)), if_neg (hne _ (by decide)),
    if_neg (by simp [hne '=' (by decide), hne '!' (by decide), hne '<' (by decide),
      hne '>' (by decide)]),
    if_neg (by simp [hne '\'' (by decide), hne '"' (by decide)]),
    if_neg (by simp [hdigit, hne '-' (by decide)]), if_pos h]

/-- A word has itself as its only lexeme. -/
theorem Scans.word {s : List Char} (h : isWord s = true) : Scans s [.word (String.ofList s)] := by
  cases s with
  | nil => cases h
  | cons c s =>
    obtain ⟨hc, hs⟩ := Bool.and_eq_true_iff.1 h
    have hall : ∀ d ∈ s, isWordPart d = true := List.all_eq_true.1 hs
    have htake : s.takeWhile isWordPart = s := List.takeWhile_eq_self_iff.2 hall
    have hdrop : s.dropWhile isWordPart = [] := List.dropWhile_eq_nil_iff.2 hall
    have hread := Lexeme.read_of_isWordStart hc s
    rw [Lexeme.readWord, htake, hdrop] at hread
    exact (Scans.cons_iff (isBlank_of_isWordStart hc) hread).2 ⟨[], .nil, rfl⟩

end PluginCatalog.Constraint
