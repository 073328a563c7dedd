import PluginCatalog.Proofs.Constraint.WellFormed

/-!
# Reading back what has been written

A well-formed expression is written as the lexemes `Expr.lexemes` (`Expr.WellFormed.writes`), where
a finite number is a number and an infinite one is the word `inf`; after a sign that word cannot be
scanned. If all numbers are finite, the lexemes have a derivation with the expression itself
(`Expr.WellFormed.exists_derivation`), and only then there are as many numbers among the lexemes as
in the expression. So an expression reads back as an equal one exactly if it is well-formed with
finite numbers (`parse_text`).
-/

namespace PluginCatalog.Constraint

open Grammar (Disjunction Constant)

/-! ## Constants -/

/-- A magnitude that is not finite is infinity. -/
theorem eq_infinity_of_not_finite {x : Magnitude} (h : x.isFinite = false) : x = .infinity := by
  obtain ⟨code, hcode⟩ := x
  have hle : infinityCode ≤ code := Nat.le_of_not_lt (of_decide_eq_false h)
  have heq : code = infinityCode := Nat.le_antisymm hcode hle
  subst heq
  rfl

/-- Digits are all of the tail of a number. -/
theorem numberTail_digits {s : List Char} (hs : ∀ c ∈ s, c.isDigit = true) :
    Lexeme.numberTail s = s := by
  have htake : s.takeWhile Char.isDigit = s := List.takeWhile_eq_self_iff.2 hs
  have hdrop : s.dropWhile Char.isDigit = [] := List.dropWhile_eq_nil_iff.2 hs
  rw [Lexeme.numberTail, htake, hdrop]

/-- Digits with a point among them are all of the tail of a number. -/
theorem numberTail_fraction {s t : List Char} (hs : ∀ c ∈ s, c.isDigit = true)
    (ht : ∀ c ∈ t, c.isDigit = true) : Lexeme.numberTail (s ++ '.' :: t) = s ++ '.' :: t := by
  have htake : (s ++ '.' :: t).takeWhile Char.isDigit = s := by
    rw [List.takeWhile_append_of_pos hs]
    simp
  have hdrop : (s ++ '.' :: t).dropWhile Char.isDigit = '.' :: t := by
    rw [List.dropWhile_append_of_pos hs]
    simp
  have htake' : t.takeWhile Char.isDigit = t := List.takeWhile_eq_self_iff.2 ht
  rw [Lexeme.numberTail, htake, hdrop]
  show s ++ '.' :: t.takeWhile Char.isDigit = s ++ '.' :: t
  rw [htake']

/-- Positional notation is the tail of a number, and what follows its first digit is too. -/
theorem numberTail_positional {s : List Char} (h : Decimal.IsPositional s) :
    Lexeme.numberTail s = s ∧ Lexeme.numberTail s.tail = s.tail := by
  cases h with
  | whole hne hs =>
    exact ⟨numberTail_digits hs, numberTail_digits fun c hc => hs c (List.mem_of_mem_tail hc)⟩
  | @fraction s t hne hs ht =>
    refine ⟨numberTail_fraction hs ht, ?_⟩
    rw [List.tail_append_of_ne_nil hne]
    exact numberTail_fraction (fun c hc => hs c (List.mem_of_mem_tail hc)) ht

/-- A digit or a sign begins a number. -/
theorem read_eq_readNumber {c : Char} (hc : c.isDigit = true ∨ c = '-') (s : List Char) :
    Text.isBlank c = false ∧ Lexeme.read c s = Lexeme.readNumber c s := by
  have hmem : c ∈ ['-', '0', '1', '2', '3', '4', '5', '6', '7', '8', '9'] := by
    rcases hc with hc | rfl
    · exact List.mem_cons_of_mem _ (mem_digits hc)
    · exact List.mem_cons_self
  simp only [List.mem_cons, List.not_mem_nil, or_false] at hmem
  rcases hmem with rfl | rfl | rfl | rfl | rfl | rfl | rfl | rfl | rfl | rfl | rfl <;>
    exact ⟨by decide, rfl⟩

/-- A text that is read as a number to its end has the number as its only lexeme. -/
theorem Scans.of_number {c : Char} {s : List Char} {x : Binary64} (hc : c.isDigit = true ∨ c = '-')
    (htail : Lexeme.numberTail s = s) (hx : Binary64.ofText? (c :: s) = some x) :
    Scans (c :: s) [.number x] := by
  obtain ⟨hblank, hread⟩ := read_eq_readNumber hc s
  have hok : Lexeme.readNumber c s = .ok (.number x, c :: s, []) := by
    rw [Lexeme.readNumber, htail, hx]
    simp
  exact (Scans.cons_iff hblank (hread.trans hok)).2 ⟨[], .nil, rfl⟩

/-- A finite number has itself as its only lexeme. -/
theorem Scans.number {x : Binary64} (h : x.isFinite = true) :
    Scans x.plain.toList [.number x] := by
  have hread := Binary64.ofText?_plain x h
  cases x with
  | nan => cases h
  | signed negative x =>
    obtain ⟨hpos, -⟩ := (x.shortest .up).read?_positional
    obtain ⟨htail, htail'⟩ := numberTail_positional hpos
    rw [Binary64.plain_finite negative x h] at hread ⊢
    cases negative with
    | true => exact .of_number (.inr rfl) htail hread
    | false =>
      obtain ⟨c, s, hs, hc⟩ := hpos.exists_cons
      rw [hs] at hread htail' ⊢
      exact .of_number (.inl hc) htail' hread

/-- A sign without digits after it cannot be scanned. -/
theorem not_scans_sign {s : List Char} (h : Lexeme.numberTail s = []) (ls : List Lexeme) :
    ¬Scans ('-' :: s) ls := by
  obtain ⟨hblank, hread⟩ := read_eq_readNumber (.inr rfl) s
  have herror : Lexeme.readNumber '-' s = .error (.invalidNumber "-") := by
    rw [Lexeme.readNumber, h]
    rfl
  exact Scans.not_of_error hblank (hread.trans herror)

/-- A text that lacks a quote, between two of them, is a string. -/
theorem Scans.string {s : List Char} {quote : Char} (hquote : quote = '\'' ∨ quote = '"')
    (h : quote ∉ s) : Scans (quote :: (s ++ [quote])) [.string (String.ofList s)] := by
  have hall : ∀ c ∈ s, decide (c ≠ quote) = true := by
    intro c hc
    rw [decide_eq_true_iff]
    rintro rfl
    exact h hc
  have htake : (s ++ [quote]).takeWhile (· ≠ quote) = s := by
    rw [List.takeWhile_append_of_pos hall]
    simp
  have hdrop : (s ++ [quote]).dropWhile (· ≠ quote) = [quote] := by
    rw [List.dropWhile_append_of_pos hall]
    simp
  have hstring : Lexeme.readString quote (s ++ [quote])
      = .ok (.string (String.ofList s), quote :: (s ++ [quote]), []) := by
    rw [Lexeme.readString, htake, hdrop]
  have hread : Lexeme.read quote (s ++ [quote]) = Lexeme.readString quote (s ++ [quote]) := by
    rcases hquote with rfl | rfl <;> rfl
  have hblank : Text.isBlank quote = false := by
    rcases hquote with rfl | rfl <;> decide
  exact (Scans.cons_iff hblank (hread.trans hstring)).2 ⟨[], .nil, rfl⟩

namespace Literal

/-- The lexeme that a constant is written as. -/
def lexeme : Literal → Lexeme
  | string s => .string s
  | number x => if x.isFinite then .number x else .word "inf"
  | bool true => .word "true"
  | bool false => .word "false"

/-- A string that lacks one of the quotes is written as a string. -/
theorem scans_string {s : String} (h : '\'' ∉ s.toList ∨ '"' ∉ s.toList) :
    Scans (render (.string s)) [.string s] := by
  have hscans {quote : Char} (hquote : quote = '\'' ∨ quote = '"') (hlacks : quote ∉ s.toList) :
      Scans (quote :: (s.toList ++ [quote])) [.string s] := by
    have := Scans.string hquote hlacks
    rwa [String.ofList_toList] at this
  have hrender : render (.string s)
      = (if s.toList.contains '\'' then '"' else '\'')
        :: (s.toList ++ [if s.toList.contains '\'' then '"' else '\'']) := rfl
  rw [hrender]
  -- The single quote is taken unless it is in the string; then the other one is not.
  by_cases hsingle : '\'' ∈ s.toList
  · rw [if_pos (List.contains_iff_mem.2 hsingle)]
    exact hscans (.inr rfl) (h.resolve_left fun hs => hs hsingle)
  · rw [if_neg (fun hc => hsingle (List.contains_iff_mem.1 hc))]
    exact hscans (.inl rfl) hsingle

/-- A number that is one writes itself if it is finite and a word if it is the positive infinity;
the negative infinity cannot be scanned. -/
theorem writes_number {x : Binary64} (h : x ≠ .nan) :
    Writes (render (.number x)) (x ≠ .signed true .infinity) [lexeme (.number x)] := by
  cases x with
  | nan => exact absurd rfl h
  | signed negative x =>
    cases hfinite : x.isFinite with
    | true =>
      have hne : Binary64.signed negative x ≠ .signed true .infinity := by
        intro hx
        rw [(Binary64.signed.inj hx).2] at hfinite
        cases hfinite
      have hscans := Writes.of_scans (Scans.number (x := .signed negative x) hfinite)
      rw [lexeme, Binary64.isFinite, hfinite, if_pos rfl]
      exact hscans.congr (iff_of_true trivial hne)
    | false =>
      -- Infinity is written as a word, which is no number; after the sign a number would have to
      -- follow.
      obtain rfl := eq_infinity_of_not_finite hfinite
      cases negative with
      | false =>
        have hne : Binary64.signed false .infinity ≠ .signed true .infinity := by
          intro hx
          cases hx
        have hword : Scans ['i', 'n', 'f'] [.word "inf"] := .word (by decide)
        exact (Writes.of_scans hword).congr (iff_of_true trivial hne)
      | true =>
        intro r ls' hr
        have htail : Lexeme.numberTail ('i' :: 'n' :: 'f' :: r) = [] := rfl
        exact iff_of_false (not_scans_sign htail ls') fun hp => hp.1 rfl

/-- A writable constant writes its lexeme, unless it is the negative infinity. -/
theorem writes {l : Literal} (hl : l.IsWritable) :
    Writes l.render (∀ x ∈ l.numbers, x ≠ .signed true .infinity) [l.lexeme] := by
  cases l with
  | string s => exact (Writes.of_scans (scans_string hl)).congr (by simp [numbers])
  | number x => exact (writes_number hl).congr (by simp [numbers])
  | bool b =>
    cases b with
    | true =>
      have hword : Scans "true".toList [.word "true"] := .word (by decide)
      exact (Writes.of_scans hword).congr (by simp [numbers])
    | false =>
      have hword : Scans "false".toList [.word "false"] := .word (by decide)
      exact (Writes.of_scans hword).congr (by simp [numbers])

end Literal

/-! ## Expressions -/

namespace Expr

mutual

/-- The lexemes that an expression is written as. -/
def lexemes : Expr → List Lexeme
  | literal l => [l.lexeme]
  | property key => [.openBracket, .word key, .closeBracket]
  | list items => .openBracket :: ([.comma].intercalate (items.map fun l => [l.lexeme])
      ++ [.closeBracket])
  | comparison op l r => lexemes l ++ [.operator op] ++ lexemes r
  | membership v l => lexemes v ++ [.word "IN"] ++ lexemes l
  | logical .not es => .word "NOT" :: (operandLexemes es).flatten
  | logical op es => [.word op.word].intercalate (operandLexemes es)
  | presence key => [.word "EXIST", .openBracket, .word key, .closeBracket]

/-- The lexemes that operands are written as, each of them as a group. -/
def operandLexemes : List Expr → List (List Lexeme)
  | [] => []
  | e :: es => grouped (lexemes e) :: operandLexemes es

end

/-- The operands of a chain are written in parentheses. -/
theorem renderOperands_eq (es : List Expr) :
    renderOperands es = es.map fun e => parenthesized e.render := by
  induction es with
  | nil => rfl
  | cons e es ih => exact congrArg (parenthesized e.render :: ·) ih

/-- The operands of a chain are written as groups. -/
theorem operandLexemes_eq (es : List Expr) :
    operandLexemes es = es.map fun e => grouped e.lexemes := by
  induction es with
  | nil => rfl
  | cons e es ih => rw [operandLexemes, ih]; rfl

/-- A chain is written with its operands in parentheses. -/
theorem render_chain {op : Connective} (hop : op ≠ .not) (es : List Expr) :
    render (.logical op es)
      = Text.separated (joiner op) (es.map fun e => parenthesized e.render) := by
  cases op with
  | and => exact congrArg (Text.separated (joiner .and)) (renderOperands_eq es)
  | or => exact congrArg (Text.separated (joiner .or)) (renderOperands_eq es)
  | not => exact absurd rfl hop

/-- A chain is written as a chain of groups. -/
theorem lexemes_chain {op : Connective} (hop : op ≠ .not) (es : List Expr) :
    lexemes (.logical op es) = [.word op.word].intercalate (es.map fun e => grouped e.lexemes) := by
  cases op with
  | and => simp only [lexemes, operandLexemes_eq]
  | or => simp only [lexemes, operandLexemes_eq]
  | not => exact absurd rfl hop

/-- The symbol of an operator has it as its only lexeme. -/
theorem scans_symbol (op : Comparison) : Scans op.symbol.toList [.operator op] := by
  cases op <;> exact (Scans.cons_iff (by decide) rfl).2 ⟨[], .nil, rfl⟩

/-- A key that is a word writes a property in brackets. -/
theorem writes_key {key : String} (h : isWord key.toList = true) :
    Writes (renderKey key) True [.openBracket, .word key, .closeBracket] := by
  have hword : Scans key.toList [.word key] := by
    have := Scans.word h
    rwa [String.ofList_toList] at this
  exact (Writes.of_scans hword).bracketed

/-- Writable constants write a list, unless the negative infinity is among them. -/
theorem writes_list {items : List Literal} (h : ∀ l ∈ items, l.IsWritable) :
    Writes (render (.list items))
      (∀ x ∈ (list items).numbers, x ≠ .signed true .infinity) (lexemes (.list items)) := by
  have hitems := Writes.separated .comma items fun l hl => Literal.writes (h l hl)
  refine hitems.bracketed.congr ?_
  rw [numbers, List.forall_mem_flatMap]

/-- A well-formed expression writes its lexemes, unless the negative infinity is in it. -/
theorem WellFormed.writes {e : Expr} (h : e.WellFormed) :
    Writes e.render (∀ x ∈ e.numbers, x ≠ .signed true .infinity) e.lexemes := by
  -- The condition on a whole is that on its parts, and keys and keywords have none.
  induction h with
  | @comparison op key l hkey hl =>
    have hparts := (writes_key hkey).separate (.spaced (scans_symbol op)) (Literal.writes hl)
    have hrender : render (.comparison op (.property key) (.literal l))
        = renderKey key ++ ' ' :: (op.symbol.toList ++ [' ']) ++ l.render := by
      rw [List.append_assoc, List.cons_append, List.append_assoc]
      rfl
    rw [hrender]
    exact hparts.congr (and_iff_right trivial)
  | @inList key items hkey hitems =>
    have hin : Scans "IN".toList [.word "IN"] := .word (by decide)
    have hparts := (writes_key hkey).separate (.spaced hin) (writes_list hitems)
    exact hparts.congr (and_iff_right trivial)
  | @inProperty l key hl hkey =>
    have hin : Scans "IN".toList [.word "IN"] := .word (by decide)
    have hparts := (Literal.writes hl).separate (.spaced hin) (writes_key hkey)
    refine hparts.congr ?_
    rw [and_iff_left trivial, numbers, numbers, numbers, List.append_nil]
  | @presence key hkey =>
    have hexist : Scans "EXIST".toList [.word "EXIST"] := .word (by decide)
    have hparts := (writes_key hkey).after hexist
    exact hparts.congr (by simp [numbers])
  | @negation e he ih =>
    have hnot : Scans "NOT".toList [.word "NOT"] := .word (by decide)
    have hparts := ih.parenthesized.after hnot
    have hrender : render (.logical .not [e]) = "NOT".toList ++ ' ' :: parenthesized e.render := by
      show "NOT ".toList ++ [parenthesized e.render].flatten = _
      rw [List.flatten_singleton]
      rfl
    have hlexemes : lexemes (.logical .not [e]) = [.word "NOT"] ++ grouped e.lexemes := by
      rw [lexemes, operandLexemes, operandLexemes, List.flatten_singleton]
      rfl
    rw [hrender, hlexemes]
    refine hparts.congr ?_
    rw [numbers, numbersAll, numbersAll, List.append_nil]
  | @chain op es hop hlen hes ih =>
    have hparts := Writes.chain hop es ih
    rw [render_chain hop, lexemes_chain hop]
    refine hparts.congr ?_
    rw [numbers, numbersAll_eq, List.forall_mem_flatMap]

/-! ## Derivations of what is written -/

/-- Separated single lexemes are lexemes with another between each two. -/
theorem intercalate_singletons (separator : Lexeme) (ls : List Lexeme) :
    [separator].intercalate (ls.map fun l => [l]) = ls.intersperse separator := by
  induction ls with
  | nil => rfl
  | cons l ls ih =>
    cases ls with
    | nil => rfl
    | cons l' ls =>
      rw [List.map_cons, List.map_cons, List.intercalate_cons_cons, List.intersperse_cons_cons,
        ← ih, List.map_cons]
      rfl

/-- A constant with a finite number, or with none, is that of a derivation with its lexeme. -/
theorem exists_constant {l : Literal} (h : ∀ x ∈ l.numbers, x.isFinite = true) :
    ∃ c : Constant, c.lexeme = l.lexeme ∧ c.literal = l := by
  cases l with
  | string s => exact ⟨.string s, rfl, rfl⟩
  | number x =>
    have hfinite : x.isFinite = true := h x List.mem_cons_self
    exact ⟨.number x, by rw [Literal.lexeme, if_pos hfinite]; rfl, rfl⟩
  | bool b =>
    cases b with
    | true => exact ⟨.true ⟨"true", by decide⟩, rfl, rfl⟩
    | false => exact ⟨.false ⟨"false", by decide⟩, rfl, rfl⟩

/-- Constants with finite numbers are those of derivations with their lexemes. -/
theorem exists_constants {items : List Literal}
    (h : ∀ x ∈ items.flatMap Literal.numbers, x.isFinite = true) :
    ∃ cs : List Constant,
      Constant.lexemesOf cs = [.comma].intercalate (items.map fun l => [l.lexeme]) ∧
      cs.map Constant.literal = items := by
  have hconstants : ∃ cs : List Constant,
      cs.map Constant.lexeme = items.map Literal.lexeme ∧ cs.map Constant.literal = items := by
    induction items with
    | nil => exact ⟨[], rfl, rfl⟩
    | cons l items ih =>
      rw [List.flatMap_cons, List.forall_mem_append] at h
      obtain ⟨c, hlex, hlit⟩ := exists_constant h.1
      obtain ⟨cs, hlexs, hlits⟩ := ih h.2
      exact ⟨c :: cs, by rw [List.map_cons, List.map_cons, hlex, hlexs],
        by rw [List.map_cons, hlit, hlits]⟩
  obtain ⟨cs, hlex, hlit⟩ := hconstants
  refine ⟨cs, ?_, hlit⟩
  rw [Constant.lexemesOf, hlex, ← intercalate_singletons, List.map_map]
  rfl

/-- The lexemes that a well-formed expression with finite numbers is written as have a derivation
with the expression. -/
theorem WellFormed.exists_derivation {e : Expr} (h : e.WellFormed)
    (hfinite : ∀ x ∈ e.numbers, x.isFinite = true) :
    ∃ d : Disjunction, d.lexemes = e.lexemes ∧ d.expr = e := by
  induction h with
  | @comparison op key l hkey hl =>
    obtain ⟨c, hlex, hlit⟩ := exists_constant hfinite
    refine ⟨.last (.last (.comparison (.bracketed key) op c)), ?_, ?_⟩
    · show [.openBracket, .word key, .closeBracket, .operator op, c.lexeme] = _
      rw [hlex]
      rfl
    · show Expr.comparison op (.property key) (.literal c.literal) = _
      rw [hlit]
  | @inList key items hkey hitems =>
    obtain ⟨cs, hlex, hlit⟩ := exists_constants hfinite
    refine ⟨.last (.last (.inList (.bracketed key) ⟨"IN", by decide⟩ cs)), ?_, ?_⟩
    · show [.openBracket, .word key, .closeBracket] ++
        .word "IN" :: .openBracket :: (Constant.lexemesOf cs ++ [.closeBracket]) = _
      rw [hlex]
      rfl
    · show Expr.membership (.property key) (.list (cs.map Constant.literal)) = _
      rw [hlit]
  | @inProperty l key hl hkey =>
    rw [numbers, numbers, numbers, List.append_nil] at hfinite
    obtain ⟨c, hlex, hlit⟩ := exists_constant hfinite
    refine ⟨.last (.last (.inProperty c ⟨"IN", by decide⟩ (.bracketed key))), ?_, ?_⟩
    · show c.lexeme :: .word "IN" :: [.openBracket, .word key, .closeBracket] = _
      rw [hlex]
      rfl
    · show Expr.membership (.literal c.literal) (.property key) = _
      rw [hlit]
  | @presence key hkey =>
    exact ⟨.last (.last (.presence ⟨"EXIST", by decide⟩ (.bracketed key))), rfl, rfl⟩
  | @negation e he ih =>
    rw [numbers, numbersAll, numbersAll, List.append_nil] at hfinite
    obtain ⟨d, hlex, hexpr⟩ := ih hfinite
    obtain ⟨d', hlex', hexpr'⟩ := d.exists_negation
    refine ⟨d', ?_, by rw [hexpr', hexpr]⟩
    rw [hlex', hlex, lexemes, operandLexemes, operandLexemes, List.flatten_singleton]
  | @chain op es hop hlen hes ih =>
    rw [numbers, numbersAll_eq, List.forall_mem_flatMap] at hfinite
    have hparts : ∀ e ∈ es, ∃ d : Disjunction, d.lexemes = e.lexemes ∧ d.expr = e :=
      fun e he => ih e he (hfinite e he)
    -- Each operand has a derivation, which stands in the chain as a group.
    have hne : es ≠ [] := by
      rintro rfl
      cases hlen
    have : Nonempty Disjunction := by
      obtain ⟨e, he⟩ := List.exists_mem_of_ne_nil es hne
      exact (hparts e he).nonempty
    choose! part hlexeme hexpr using hparts
    obtain ⟨d, hlex, hroot⟩ := Disjunction.exists_chain hop (es.map part) (by simpa using hne)
    refine ⟨d, ?_, ?_⟩
    · rw [hlex, lexemes_chain hop, List.map_map]
      exact congrArg _ (List.map_congr_left fun e he => congrArg grouped (hlexeme e he))
    · have hroots : es.map (Disjunction.expr ∘ part) = es.map id := List.map_congr_left hexpr
      rw [hroot, List.map_map, hroots, List.map_id]
      match es, hlen with
      | e :: e' :: es, _ => rfl

/-! ## Numbers of what is written -/

/-- The numbers of what is joined are those of the parts, if the separator has none. -/
theorem numbers_intercalate {separator : List Lexeme}
    (h : separator.flatMap Lexeme.numbers = []) (parts : List (List Lexeme)) :
    (separator.intercalate parts).flatMap Lexeme.numbers
      = parts.flatMap fun part => part.flatMap Lexeme.numbers := by
  induction parts with
  | nil => rfl
  | cons part parts ih =>
    cases parts with
    | nil => simp
    | cons part' parts =>
      rw [List.intercalate_cons_cons, List.flatMap_append, List.flatMap_append, h, ih,
        List.append_nil]
      rfl

/-- The numbers of a group are those of what is in it. -/
theorem numbers_grouped (ls : List Lexeme) :
    (grouped ls).flatMap Lexeme.numbers = ls.flatMap Lexeme.numbers := by
  rw [grouped, List.flatMap_cons, List.flatMap_append]
  exact List.append_nil _

/-- A constant is written as a number if it is a finite one. -/
theorem numbers_literal (l : Literal) :
    l.lexeme.numbers = l.numbers.filter Binary64.isFinite := by
  cases l with
  | string s => rfl
  | number x =>
    rw [Literal.lexeme, Literal.numbers, List.filter_cons]
    cases x.isFinite <;> rfl
  | bool b => cases b <;> rfl

mutual

/-- The numbers that an expression is written with are its finite ones. -/
theorem numbers_lexemes (e : Expr) :
    e.lexemes.flatMap Lexeme.numbers = e.numbers.filter Binary64.isFinite := by
  match e with
  | literal l => rw [lexemes, numbers, ← numbers_literal]; exact List.append_nil _
  | property key => rfl
  | list items =>
    have hitems : ∀ l : Literal, [l.lexeme].flatMap Lexeme.numbers
        = l.numbers.filter Binary64.isFinite := by
      intro l
      rw [← numbers_literal]
      exact List.append_nil _
    rw [lexemes, numbers, List.flatMap_cons, List.flatMap_append, numbers_intercalate rfl,
      List.flatMap_map, List.filter_flatMap]
    simp only [hitems]
    exact List.append_nil _
  | comparison op l r =>
    rw [lexemes, numbers, List.flatMap_append, List.flatMap_append, List.filter_append,
      numbers_lexemes l, numbers_lexemes r]
    exact congrArg (· ++ _) (List.append_nil _)
  | membership v l =>
    rw [lexemes, numbers, List.flatMap_append, List.flatMap_append, List.filter_append,
      numbers_lexemes v, numbers_lexemes l]
    exact congrArg (· ++ _) (List.append_nil _)
  -- Neither the words of connectives nor parentheses have numbers.
  | logical op es =>
    rw [numbers, ← numbers_operandLexemes es]
    cases op with
    | and =>
      simp only [lexemes]
      exact numbers_intercalate rfl _
    | or =>
      simp only [lexemes]
      exact numbers_intercalate rfl _
    | not =>
      rw [lexemes, List.flatMap_cons, List.flatten_eq_flatMap, List.flatMap_assoc]
      rfl
  | presence key => rfl

/-- The numbers that operands are written with are their finite ones. -/
theorem numbers_operandLexemes (es : List Expr) :
    ((operandLexemes es).flatMap fun ls => ls.flatMap Lexeme.numbers)
      = (numbersAll es).filter Binary64.isFinite := by
  match es with
  | [] => rfl
  | e :: es =>
    rw [operandLexemes, numbersAll, List.flatMap_cons, List.filter_append, numbers_grouped,
      numbers_lexemes e, numbers_operandLexemes es]

end

end Expr

/-! ## The round trip -/

/-- A well-formed expression with finite numbers is what its text is read as. -/
theorem parse_text_of_wellFormed {e : Expr} (h : e.WellFormed)
    (hfinite : ∀ x ∈ e.numbers, x.isFinite = true) : parse e.text = .ok ⟨e.text, e⟩ := by
  obtain ⟨d, hlex, hexpr⟩ := h.exists_derivation hfinite
  -- The lexemes have a derivation, and with finite numbers they are what the text is scanned as.
  have hscannable : ∀ x ∈ e.numbers, x ≠ .signed true .infinity := by
    rintro x hx rfl
    exact absurd (hfinite _ hx) (by decide)
  refine parse_eq_ok_iff.2 ⟨parseExpr_eq_ok_iff_scans.2 ⟨d, ?_, hexpr⟩, rfl⟩
  rw [Expr.text, String.toList_ofList, h.writes.scans_iff]
  exact ⟨hscannable, hlex⟩

/-- An expression whose text is read as an equal one is well-formed with finite numbers. -/
theorem wellFormed_of_parse_text {e : Expr} {c : Constraint} (h : parse e.text = .ok c)
    (hsame : c.root.same e = true) :
    e.WellFormed ∧ ∀ x ∈ e.numbers, x.isFinite = true := by
  have hwell : e.WellFormed := (wellFormed_of_parse h).of_same hsame
  refine ⟨hwell, ?_⟩
  obtain ⟨d, hscans, hroot⟩ := parseExpr_eq_ok_iff_scans.1 (parse_eq_ok_iff.1 h).1
  rw [Expr.text, String.toList_ofList, hwell.writes.scans_iff] at hscans
  -- Infinite numbers are not among the lexemes, so with one the numbers would be fewer.
  have hnumbers : c.root.numbers = e.numbers.filter Binary64.isFinite := by
    rw [← hroot, d.numbers_expr, hscans.2, Expr.numbers_lexemes]
  have hlength := Expr.length_numbers_of_same c.root e hsame
  rw [hnumbers] at hlength
  exact List.length_filter_eq_length_iff.1 hlength

/-- The text of an expression is read as an equal one exactly if the expression is well-formed with
finite numbers. Every accepted text is read as a well-formed expression with the numbers of its
tokens, and the text of that is read as an equal one exactly if none of the numbers is infinite. -/
theorem parse_text :
    (∀ e : Expr, (∃ c, parse e.text = .ok c ∧ c.root.same e = true) ↔
      e.WellFormed ∧ ∀ x ∈ e.numbers, x.isFinite = true) ∧
    ∀ (text : String) (c : Constraint), parse text = .ok c →
      c.root.WellFormed ∧
        (∃ tokens, Token.scan text.toList = .ok tokens ∧
          c.root.numbers = tokens.flatMap fun t => t.lexeme.numbers) ∧
        ((∃ c', parse c.root.text = .ok c' ∧ c'.root.same c.root = true) ↔
          ∀ x ∈ c.root.numbers, x.isFinite = true) := by
  have hround (e : Expr) : (∃ c, parse e.text = .ok c ∧ c.root.same e = true) ↔
      e.WellFormed ∧ ∀ x ∈ e.numbers, x.isFinite = true := by
    constructor
    · rintro ⟨c, hc, hsame⟩
      exact wellFormed_of_parse_text hc hsame
    · rintro ⟨hwell, hfinite⟩
      refine ⟨_, parse_text_of_wellFormed hwell hfinite, e.same_self fun x hx => ?_⟩
      rintro rfl
      exact absurd (hfinite _ hx) (by decide)
  refine ⟨hround, fun text c hc => ⟨wellFormed_of_parse hc, ?_, ?_⟩⟩
  · obtain ⟨d, ⟨tokens, hscan, hlex⟩, hroot⟩ :=
      parseExpr_eq_ok_iff_scans.1 (parse_eq_ok_iff.1 hc).1
    exact ⟨tokens, hscan, by rw [← hroot, d.numbers_expr, ← hlex, List.flatMap_map]⟩
  · rw [hround, and_iff_right (wellFormed_of_parse hc)]

/-- A string with a quote in it and a keyword as a key are read back; an infinite number is not. -/
theorem parse_text_quote :
    (∃ c, parse (Expr.membership (.literal (.string "it's")) (.property "not")).text = .ok c ∧
      c.root.same (.membership (.literal (.string "it's")) (.property "not")) = true) ∧
    ¬∃ c, parse (Expr.comparison .lt (.property "a")
        (.literal (.number (.signed false .infinity)))).text = .ok c ∧
      c.root.same (.comparison .lt (.property "a")
        (.literal (.number (.signed false .infinity)))) = true := by
  have hscan : Token.scan "\"it's\" in [not]".toList = .ok
      [⟨.string "it's", ['"', 'i', 't', '\'', 's', '"'], 0⟩, ⟨.word "in", ['i', 'n'], 7⟩,
       ⟨.openBracket, ['['], 10⟩, ⟨.word "not", ['n', 'o', 't'], 11⟩,
       ⟨.closeBracket, [']'], 14⟩] := by decide +kernel
  have hparse : parse "\"it's\" in [not]" = .ok
      ⟨"\"it's\" in [not]", .membership (.literal (.string "it's")) (.property "not")⟩ := by
    rw [parse, parseExpr, hscan]
    rfl
  refine ⟨(parse_text.2 _ _ hparse).2.2.2 (by simp [Expr.numbers, Literal.numbers]), ?_⟩
  intro hinfinite
  have hfinite := ((parse_text.1 _).1 hinfinite).2 (.signed false .infinity)
    (by simp [Expr.numbers, Literal.numbers])
  exact absurd hfinite (by decide)

end PluginCatalog.Constraint
