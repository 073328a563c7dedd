import PluginCatalog.Proofs.Binary64.PlainText
import PluginCatalog.Proofs.Constraint.Composition

/-!
# Well-formed expressions

The type of expressions admits trees that no text is read as. Well-formed are those that the
language can write (`Expr.WellFormed`): keys are words, strings do not contain both quotes,
comparisons and memberships have a property at one side and constants at the other, and connectives
have as many operands as they take. Every text that is accepted is read as a well-formed expression
(`wellFormed_of_parse`), since its tokens can be written, and the numbers of the expression are
those of its tokens (`Grammar.Disjunction.numbers_expr`). Equal expressions are well-formed together
(`Expr.WellFormed.of_same`) and have equally many numbers.
-/

namespace PluginCatalog.Constraint

/-! ## Expressions that can be written -/

/-- A constant that can be written: a string lacks one of the quotes, and a number is one. -/
def Literal.IsWritable : Literal → Prop
  | string s => '\'' ∉ s.toList ∨ '"' ∉ s.toList
  | number x => x ≠ .nan
  | bool _ => True

/-- The expressions that the language can write. -/
inductive Expr.WellFormed : Expr → Prop where
  /-- A property compared with a constant. -/
  | comparison {op : Comparison} {key : String} {l : Literal} (hkey : isWord key.toList = true)
      (hl : l.IsWritable) : WellFormed (.comparison op (.property key) (.literal l))
  /-- A property in a list of constants. -/
  | inList {key : String} {items : List Literal} (hkey : isWord key.toList = true)
      (hitems : ∀ l ∈ items, l.IsWritable) :
      WellFormed (.membership (.property key) (.list items))
  /-- A constant in the list that a property is. -/
  | inProperty {l : Literal} {key : String} (hl : l.IsWritable) (hkey : isWord key.toList = true) :
      WellFormed (.membership (.literal l) (.property key))
  /-- The presence of a property. -/
  | presence {key : String} (hkey : isWord key.toList = true) : WellFormed (.presence key)
  /-- A negation of one expression. -/
  | negation {e : Expr} (he : WellFormed e) : WellFormed (.logical .not [e])
  /-- A chain of at least two expressions. -/
  | chain {op : Connective} {es : List Expr} (hop : op ≠ .not) (hlen : 2 ≤ es.length)
      (hes : ∀ e ∈ es, WellFormed e) : WellFormed (.logical op es)

/-- A chain of well-formed operands is well-formed, with one operand too. -/
theorem Expr.WellFormed.of_chain {op : Connective} (hop : op ≠ .not) {es : List Expr} (hne : es ≠ [])
    (hes : ∀ e ∈ es, e.WellFormed) : (Expr.chain op es).WellFormed := by
  match es with
  | [] => exact absurd rfl hne
  | [e] => exact hes e List.mem_cons_self
  | e :: e' :: es => exact .chain hop (by simp) hes

/-! ## Numbers -/

/-- The number of a constant, if it is one. -/
def Literal.numbers : Literal → List Binary64
  | number x => [x]
  | string _ => []
  | bool _ => []

namespace Expr

mutual

/-- The numbers in an expression, from left to right. -/
def numbers : Expr → List Binary64
  | literal l => l.numbers
  | property _ => []
  | list items => items.flatMap Literal.numbers
  | comparison _ l r => numbers l ++ numbers r
  | membership v l => numbers v ++ numbers l
  | logical _ es => numbersAll es
  | presence _ => []

/-- The numbers in some expressions. -/
def numbersAll : List Expr → List Binary64
  | [] => []
  | e :: es => numbers e ++ numbersAll es

end

/-- The numbers in some expressions are those of each. -/
theorem numbersAll_eq (es : List Expr) : numbersAll es = es.flatMap numbers := by
  induction es with
  | nil => rfl
  | cons e es ih => rw [numbersAll, ih, List.flatMap_cons]

/-- The numbers in a chain are those of its operands. -/
theorem numbers_chain (op : Connective) (es : List Expr) :
    (chain op es).numbers = es.flatMap numbers := by
  match es with
  | [] => rfl
  | [e] => simp [chain]
  | e :: e' :: es => rw [chain, numbers, numbersAll_eq]; simp

end Expr

/-! ## Lexemes -/

namespace Lexeme

/-- The number of a lexeme, if it is one. -/
def numbers : Lexeme → List Binary64
  | number x => [x]
  | _ => []

/-- A lexeme that can be read: a word is one, a string lacks one of the quotes, and a number is one.
-/
def IsReadable : Lexeme → Prop
  | word w => isWord w.toList = true
  | string s => '\'' ∉ s.toList ∨ '"' ∉ s.toList
  | number x => x ≠ .nan
  | _ => True

/-- Digits and points spell no name of a number. -/
theorem ofUnsigned?_ne_nan {s : List Char} (h : ∀ c ∈ s, c.isDigit = true ∨ c = '.')
    (negative : Bool) : Binary64.ofUnsigned? negative s ≠ some .nan := by
  -- Digits and points have no lower case but themselves, and `n` is none of them.
  have hname : s.map Char.toLower ≠ ['n', 'a', 'n'] := by
    intro hs
    cases s with
    | nil => cases hs
    | cons c s =>
      have hc : c.toLower = 'n' := (List.cons.inj hs).1
      have hsame : c.toLower = c := by
        rcases h c List.mem_cons_self with hdigit | rfl
        · have hdigits : ['0', '1', '2', '3', '4', '5', '6', '7', '8', '9'].all
              (fun d => d.toLower = d) = true := by decide
          simpa using List.all_eq_true.1 hdigits c (mem_digits hdigit)
        · decide
      rw [hsame] at hc
      subst hc
      exact absurd (h 'n' List.mem_cons_self) (by decide)
  unfold Binary64.ofUnsigned?
  split
  · simp
  · rw [if_neg hname]
    split <;> simp

/-- The tail of a number has digits and points. -/
theorem isDigit_of_mem_numberTail {s : List Char} {c : Char} (h : c ∈ numberTail s) :
    c.isDigit = true ∨ c = '.' := by
  unfold numberTail at h
  dsimp only at h
  split at h
  · rw [List.mem_append, List.mem_cons] at h
    rcases h with h | rfl | h
    · exact .inl (List.mem_takeWhile_imp h)
    · exact .inr rfl
    · exact .inl (List.mem_takeWhile_imp h)
  · exact .inl (List.mem_takeWhile_imp h)

/-- A number that has been read is one. -/
theorem isReadable_readNumber {c : Char} {s piece rest : List Char} {lexeme : Lexeme}
    (hc : c.isDigit = true ∨ c = '-') (h : readNumber c s = .ok (lexeme, piece, rest)) :
    lexeme.IsReadable := by
  have htail : ∀ d ∈ numberTail s, d.isDigit = true ∨ d = '.' := fun d => isDigit_of_mem_numberTail
  have hnan : Binary64.ofText? (c :: numberTail s) ≠ some .nan := by
    rcases hc with hc | rfl
    · rw [Binary64.ofText?_of_isDigit hc]
      exact ofUnsigned?_ne_nan (List.forall_mem_cons.2 ⟨.inl hc, htail⟩) false
    · exact ofUnsigned?_ne_nan htail true
  unfold readNumber at h
  dsimp only at h
  split at h
  · rename_i x hx
    cases h
    rintro rfl
    exact hnan hx
  · cases h

/-- A string that has been read lacks the quote around it. -/
theorem isReadable_readString {c : Char} {s piece rest : List Char} {lexeme : Lexeme}
    (hc : c = '\'' ∨ c = '"') (h : readString c s = .ok (lexeme, piece, rest)) :
    lexeme.IsReadable := by
  -- The content ends before the first quote of the kind that opened it.
  have hquote : c ∉ s.takeWhile (· ≠ c) := by
    intro hmem
    simpa using List.mem_takeWhile_imp hmem
  unfold readString at h
  dsimp only at h
  split at h
  · cases h
  · cases h
    show '\'' ∉ (String.ofList (s.takeWhile (· ≠ c))).toList
      ∨ '"' ∉ (String.ofList (s.takeWhile (· ≠ c))).toList
    rw [String.toList_ofList]
    rcases hc with rfl | rfl
    · exact .inl hquote
    · exact .inr hquote

/-- An operator that has been read is one. -/
theorem isReadable_readOperator {c : Char} {s piece rest : List Char} {lexeme : Lexeme}
    (h : readOperator c s = .ok (lexeme, piece, rest)) : lexeme.IsReadable := by
  unfold readOperator at h
  split at h <;> cases h <;> trivial

/-- A word that has been read is one. -/
theorem isReadable_readWord {c : Char} (hc : isWordStart c = true) (s : List Char) :
    (readWord c s).1.IsReadable := by
  show isWord (String.ofList (c :: s.takeWhile isWordPart)).toList = true
  rw [String.toList_ofList, isWord, hc, Bool.true_and, List.all_eq_true]
  exact fun d hd => List.mem_takeWhile_imp hd

/-- What has been read is readable. -/
theorem isReadable_read {c : Char} {s piece rest : List Char} {lexeme : Lexeme}
    (h : read c s = .ok (lexeme, piece, rest)) : lexeme.IsReadable := by
  rcases read_cases c with ⟨l, hl, hc⟩ | hc | ⟨hquote, hc⟩ | ⟨hfirst, hc⟩ | ⟨hstart, hc⟩ | hc <;>
    rw [hc] at h
  · cases h
    simp only [marks, List.mem_cons, List.not_mem_nil, or_false] at hl
    rcases hl with rfl | rfl | rfl | rfl | rfl <;> trivial
  · exact isReadable_readOperator h
  · exact isReadable_readString hquote h
  · exact isReadable_readNumber hfirst h
  · cases h
    exact isReadable_readWord hstart s
  · cases h

end Lexeme

/-- The lexemes of a text are readable. -/
theorem Scans.isReadable {s : List Char} {ls : List Lexeme} (h : Scans s ls) :
    ∀ l ∈ ls, l.IsReadable := by
  obtain ⟨tokens, hs, rfl⟩ := h
  rw [Token.scan] at hs
  generalize 0 = start at hs
  induction start, s using Token.scanFrom.induct generalizing tokens with
  | case1 start =>
    rw [Token.scanFrom] at hs
    cases hs
    simp
  | case2 start c cs hc ih =>
    rw [Token.scanFrom_blank hc] at hs
    exact ih tokens hs
  | case3 start c cs hc fault hread =>
    rw [Token.scanFrom_error (by simpa using hc) hread] at hs
    cases hs
  | case4 start c cs hc lexeme piece rest hread _ hrest ih =>
    rw [Token.scanFrom_ok (by simpa using hc) hread, hrest] at hs
    cases hs
  | case5 start c cs hc lexeme piece rest hread tokens' hrest ih =>
    rw [Token.scanFrom_ok (by simpa using hc) hread, hrest] at hs
    cases hs
    exact List.forall_mem_cons.2 ⟨Lexeme.isReadable_read hread, ih tokens' hrest⟩

/-! ## Derivations -/

namespace Grammar

/-- A chain of `AND` has an operand. -/
theorem Conjunction.operands_ne_nil (c : Conjunction) : c.operands ≠ [] := by
  cases c <;> simp [operands]

/-- A chain of `OR` has an operand. -/
theorem Disjunction.operands_ne_nil (d : Disjunction) : d.operands ≠ [] := by
  cases d <;> simp [operands]

/-- The key of a property is a word of the text. -/
theorem Property.isWord_key {p : Property} (h : ∀ l ∈ p.lexemes, l.IsReadable) :
    isWord p.key.toList = true := by
  cases p with
  | bracketed key => exact h (.word key) (by simp [lexemes])
  | bare key free => exact h (.word key) (by simp [lexemes])

/-- A constant whose lexeme is readable is writable. -/
theorem Constant.isWritable_literal {c : Constant} (h : c.lexeme.IsReadable) :
    c.literal.IsWritable := by
  cases c with
  | string s => exact h
  | number x => exact h
  | true w => trivial
  | false w => trivial

/-- The items of a list are among its lexemes. -/
theorem Constant.mem_lexemesOf {c : Constant} {items : List Constant} (h : c ∈ items) :
    c.lexeme ∈ lexemesOf items := by
  cases items with
  | nil => cases h
  | cons i items =>
    rw [lexemesOf_cons]
    rcases List.mem_cons.1 h with rfl | h
    · exact List.mem_cons_self
    · refine List.mem_cons_of_mem _ (List.mem_flatMap.2 ⟨c, h, ?_⟩)
      simp

mutual

/-- A term of readable lexemes is a well-formed expression. -/
theorem Term.wellFormed_expr (t : Term) (h : ∀ l ∈ t.lexemes, l.IsReadable) :
    t.expr.WellFormed := by
  match t with
  | .negation w t =>
    rw [Term.lexemes, List.forall_mem_cons] at h
    exact .negation (t.wellFormed_expr h.2)
  | .group d =>
    rw [Term.lexemes, List.forall_mem_cons, List.forall_mem_append] at h
    exact d.wellFormed_expr h.2.1
  | .presence w p =>
    rw [Term.lexemes, List.forall_mem_cons] at h
    exact .presence (Property.isWord_key h.2)
  | .comparison p op c =>
    rw [Term.lexemes, List.forall_mem_append] at h
    exact .comparison (Property.isWord_key h.1)
      (Constant.isWritable_literal (h.2 _ (by simp)))
  | .inList p w items =>
    rw [Term.lexemes, List.forall_mem_append] at h
    refine .inList (Property.isWord_key h.1) fun l hl => ?_
    obtain ⟨c, hc, rfl⟩ := List.mem_map.1 hl
    exact Constant.isWritable_literal (h.2 _ (by simp [Constant.mem_lexemesOf hc]))
  | .inProperty c w p =>
    rw [Term.lexemes, List.forall_mem_cons, List.forall_mem_cons] at h
    exact .inProperty (Constant.isWritable_literal h.1) (Property.isWord_key h.2.2)

/-- The operands of a chain of `AND` of readable lexemes are well-formed. -/
theorem Conjunction.wellFormed_operands (c : Conjunction) (h : ∀ l ∈ c.lexemes, l.IsReadable) :
    ∀ e ∈ c.operands, e.WellFormed := by
  match c with
  | .last t => exact List.forall_mem_singleton.2 (t.wellFormed_expr h)
  | .more t w c =>
    rw [Conjunction.lexemes, List.forall_mem_append, List.forall_mem_cons] at h
    exact List.forall_mem_cons.2 ⟨t.wellFormed_expr h.1, c.wellFormed_operands h.2.2⟩

/-- The operands of a chain of `OR` of readable lexemes are well-formed. -/
theorem Disjunction.wellFormed_operands (d : Disjunction) (h : ∀ l ∈ d.lexemes, l.IsReadable) :
    ∀ e ∈ d.operands, e.WellFormed := by
  match d with
  | .last c =>
    rw [Disjunction.operands, List.forall_mem_singleton, c.expr_eq]
    exact .of_chain (by decide) c.operands_ne_nil (c.wellFormed_operands h)
  | .more c w d =>
    rw [Disjunction.lexemes, List.forall_mem_append, List.forall_mem_cons] at h
    rw [Disjunction.operands, List.forall_mem_cons, c.expr_eq]
    exact ⟨.of_chain (by decide) c.operands_ne_nil (c.wellFormed_operands h.1),
      d.wellFormed_operands h.2.2⟩

/-- A chain of `OR` of readable lexemes is a well-formed expression. -/
theorem Disjunction.wellFormed_expr (d : Disjunction) (h : ∀ l ∈ d.lexemes, l.IsReadable) :
    d.expr.WellFormed := by
  rw [d.expr_eq]
  exact .of_chain (by decide) d.operands_ne_nil (d.wellFormed_operands h)

end

/-- The number of a literal is that of its lexeme. -/
theorem Constant.numbers_lexeme (c : Constant) : c.lexeme.numbers = c.literal.numbers := by
  cases c <;> rfl

/-- The lexemes of a property have no numbers. -/
theorem Property.numbers_lexemes (p : Property) : p.lexemes.flatMap Lexeme.numbers = [] := by
  cases p <;> rfl

/-- The numbers of a list are those of its lexemes. -/
theorem Constant.numbers_lexemesOf (items : List Constant) :
    (lexemesOf items).flatMap Lexeme.numbers
      = (items.map literal).flatMap Literal.numbers := by
  cases items with
  | nil => rfl
  | cons c items =>
    have hitem (i : Constant) :
        [Lexeme.comma, i.lexeme].flatMap Lexeme.numbers = i.literal.numbers := by
      rw [← i.numbers_lexeme]
      exact List.append_nil _
    rw [lexemesOf_cons, List.flatMap_cons, List.flatMap_assoc, List.map_cons, List.flatMap_cons,
      c.numbers_lexeme, List.flatMap_map]
    simp only [hitem]

mutual

/-- The numbers of a term are those of its lexemes. -/
theorem Term.numbers_expr (t : Term) : t.expr.numbers = t.lexemes.flatMap Lexeme.numbers := by
  match t with
  | .negation w t =>
    rw [Term.expr, Term.lexemes, List.flatMap_cons, ← t.numbers_expr, Expr.numbers, Expr.numbersAll,
      Expr.numbersAll, List.append_nil]
    rfl
  | .group d =>
    rw [Term.expr, Term.lexemes, List.flatMap_cons, List.flatMap_append, ← d.numbers_expr]
    exact (List.append_nil _).symm
  | .presence w p =>
    rw [Term.expr, Term.lexemes, List.flatMap_cons, p.numbers_lexemes]
    rfl
  | .comparison p op c =>
    rw [Term.expr, Term.lexemes, List.flatMap_append, p.numbers_lexemes, Expr.numbers, Expr.numbers,
      Expr.numbers, ← c.numbers_lexeme]
    exact (List.append_nil _).symm
  | .inList p w items =>
    rw [Term.expr, Term.lexemes, List.flatMap_append, p.numbers_lexemes, Expr.numbers, Expr.numbers,
      Expr.numbers, ← Constant.numbers_lexemesOf, List.flatMap_cons, List.flatMap_cons,
      List.flatMap_append]
    exact (List.append_nil _).symm
  | .inProperty c w p =>
    rw [Term.expr, Term.lexemes, List.flatMap_cons, List.flatMap_cons, p.numbers_lexemes,
      Expr.numbers, Expr.numbers, Expr.numbers, ← c.numbers_lexeme]
    rfl

/-- The numbers of the operands of a chain of `AND` are those of its lexemes. -/
theorem Conjunction.numbers_operands (c : Conjunction) :
    c.operands.flatMap Expr.numbers = c.lexemes.flatMap Lexeme.numbers := by
  match c with
  | .last t =>
    rw [Conjunction.operands, Conjunction.lexemes, ← t.numbers_expr]
    exact List.append_nil _
  | .more t w c =>
    rw [Conjunction.operands, Conjunction.lexemes, List.flatMap_cons, List.flatMap_append,
      List.flatMap_cons, ← t.numbers_expr, ← c.numbers_operands]
    rfl

/-- The numbers of the operands of a chain of `OR` are those of its lexemes. -/
theorem Disjunction.numbers_operands (d : Disjunction) :
    d.operands.flatMap Expr.numbers = d.lexemes.flatMap Lexeme.numbers := by
  match d with
  | .last c =>
    rw [Disjunction.operands, Disjunction.lexemes, ← c.numbers_operands, List.flatMap_cons,
      List.flatMap_nil, List.append_nil, c.expr_eq, Expr.numbers_chain]
  | .more c w d =>
    rw [Disjunction.operands, Disjunction.lexemes, List.flatMap_cons, List.flatMap_append,
      List.flatMap_cons, ← c.numbers_operands, ← d.numbers_operands, c.expr_eq, Expr.numbers_chain]
    rfl

/-- The numbers of a chain of `OR` are those of its lexemes. -/
theorem Disjunction.numbers_expr (d : Disjunction) :
    d.expr.numbers = d.lexemes.flatMap Lexeme.numbers := by
  rw [d.expr_eq, Expr.numbers_chain, d.numbers_operands]

end

end Grammar

/-- A text that is accepted is read as a well-formed expression. -/
theorem wellFormed_of_parse {text : String} {c : Constraint} (h : parse text = .ok c) :
    c.root.WellFormed := by
  obtain ⟨d, hscans, hroot⟩ := parseExpr_eq_ok_iff_scans.1 (parse_eq_ok_iff.1 h).1
  rw [← hroot]
  exact d.wellFormed_expr hscans.isReadable

/-! ## Equal expressions -/

/-- A number equals no value that is none. -/
theorem ne_nan_of_sameValue {x y : Binary64} (h : x.sameValue y = true) : y ≠ .nan := by
  rintro rfl
  cases x <;> simp [Binary64.sameValue, Binary64.compare?] at h

/-- A number that is one equals itself. -/
theorem sameValue_self {x : Binary64} (h : x ≠ .nan) : x.sameValue x = true := by
  cases x with
  | nan => exact absurd rfl h
  | signed negative x => simp [Binary64.sameValue, Binary64.compare?]

namespace Literal

/-- Equal constants are the same, or equal numbers. -/
theorem same_cases {l m : Literal} (h : l.same m = true) :
    l = m ∨ ∃ x y, l = .number x ∧ m = .number y ∧ x.sameValue y = true := by
  cases l <;> cases m
  all_goals first
    | exact .inr ⟨_, _, rfl, rfl, h⟩
    | simp only [same, value, Value.same, decide_eq_true_eq, reduceCtorEq, Value.text.injEq,
        Value.bool.injEq] at h
  all_goals exact .inl (by rw [h])

/-- Equal constants are writable together. -/
theorem IsWritable.of_same {l m : Literal} (hl : l.IsWritable) (h : l.same m = true) :
    m.IsWritable := by
  rcases same_cases h with rfl | ⟨x, y, rfl, rfl, hxy⟩
  · exact hl
  · exact ne_nan_of_sameValue hxy

/-- Equal constants have equally many numbers. -/
theorem length_numbers_of_same {l m : Literal} (h : l.same m = true) :
    l.numbers.length = m.numbers.length := by
  rcases same_cases h with rfl | ⟨x, y, rfl, rfl, hxy⟩
  · rfl
  · rfl

/-- The constants of equal lists are writable together. -/
theorem isWritable_of_sameAll {ls ms : List Literal} (hls : ∀ l ∈ ls, l.IsWritable)
    (h : sameAll ls ms = true) : ∀ m ∈ ms, m.IsWritable := by
  induction ls generalizing ms with
  | nil =>
    cases ms with
    | nil => exact hls
    | cons m ms => cases h
  | cons l ls ih =>
    cases ms with
    | nil => cases h
    | cons m ms =>
      obtain ⟨hlm, hrest⟩ := Bool.and_eq_true_iff.1 h
      rw [List.forall_mem_cons] at hls ⊢
      exact ⟨hls.1.of_same hlm, ih hls.2 hrest⟩

/-- Equal lists have equally many numbers. -/
theorem length_numbers_of_sameAll {ls ms : List Literal} (h : sameAll ls ms = true) :
    (ls.flatMap numbers).length = (ms.flatMap numbers).length := by
  induction ls generalizing ms with
  | nil =>
    cases ms with
    | nil => rfl
    | cons m ms => cases h
  | cons l ls ih =>
    cases ms with
    | nil => cases h
    | cons m ms =>
      obtain ⟨hlm, hrest⟩ := Bool.and_eq_true_iff.1 h
      rw [List.flatMap_cons, List.flatMap_cons, List.length_append, List.length_append,
        length_numbers_of_same hlm, ih hrest]

/-- A list of numbers that are ones, and of other constants, equals itself. -/
theorem same_self {l : Literal} (h : ∀ x ∈ l.numbers, x ≠ .nan) : l.same l = true := by
  cases l with
  | number x => exact sameValue_self (h x List.mem_cons_self)
  | string s => simp [same, value, Value.same]
  | bool b => simp [same, value, Value.same]

/-- A list equals itself if its numbers are ones. -/
theorem sameAll_self {ls : List Literal} (h : ∀ x ∈ ls.flatMap numbers, x ≠ .nan) :
    sameAll ls ls = true := by
  induction ls with
  | nil => rfl
  | cons l ls ih =>
    rw [List.flatMap_cons, List.forall_mem_append] at h
    exact Bool.and_eq_true_iff.2 ⟨same_self h.1, ih h.2⟩

end Literal

namespace Expr

/-- What equals a constant is an equal constant. -/
theorem exists_of_literal_same {l : Literal} {b : Expr} (h : same (.literal l) b = true) :
    ∃ m, b = .literal m ∧ l.same m = true := by
  cases b <;> simp only [same, Bool.false_eq_true] at h
  exact ⟨_, rfl, h⟩

/-- What equals a property is the property. -/
theorem eq_of_property_same {key : String} {b : Expr} (h : same (.property key) b = true) :
    b = .property key := by
  cases b <;> simp only [same, Bool.false_eq_true, decide_eq_true_eq] at h
  rw [h]

/-- What equals a list is an equal list. -/
theorem exists_of_list_same {ls : List Literal} {b : Expr} (h : same (.list ls) b = true) :
    ∃ ms, b = .list ms ∧ Literal.sameAll ls ms = true := by
  cases b <;> simp only [same, Bool.false_eq_true] at h
  exact ⟨_, rfl, h⟩

/-- Expressions that are equal item by item are equally many, and each of the second ones equals one
of the first. -/
theorem exists_of_sameAll {es es' : List Expr} (h : sameAll es es' = true) :
    es.length = es'.length ∧ ∀ e' ∈ es', ∃ e ∈ es, same e e' = true := by
  induction es generalizing es' with
  | nil =>
    cases es' with
    | nil => exact ⟨rfl, by simp⟩
    | cons e' es' => simp [sameAll] at h
  | cons e es ih =>
    cases es' with
    | nil => simp [sameAll] at h
    | cons e' es' =>
      rw [sameAll, Bool.and_eq_true] at h
      obtain ⟨hlen, hall⟩ := ih h.2
      refine ⟨by rw [List.length_cons, List.length_cons, hlen], List.forall_mem_cons.2 ⟨?_, ?_⟩⟩
      · exact ⟨e, List.mem_cons_self, h.1⟩
      · intro d hd
        obtain ⟨c, hc, hcd⟩ := hall d hd
        exact ⟨c, List.mem_cons_of_mem e hc, hcd⟩

/-- Equal expressions are well-formed together. -/
theorem WellFormed.of_same {a b : Expr} (ha : a.WellFormed) (h : same a b = true) :
    b.WellFormed := by
  induction ha generalizing b with
  | comparison hkey hl =>
    cases b <;> simp only [same, Bool.false_eq_true, Bool.and_eq_true, decide_eq_true_eq] at h
    obtain ⟨⟨rfl, hleft⟩, hright⟩ := h
    obtain rfl := eq_of_property_same hleft
    obtain ⟨m, rfl, hm⟩ := exists_of_literal_same hright
    exact .comparison hkey (hl.of_same hm)
  | inList hkey hitems =>
    cases b <;> simp only [same, Bool.false_eq_true, Bool.and_eq_true] at h
    obtain rfl := eq_of_property_same h.1
    obtain ⟨ms, rfl, hms⟩ := exists_of_list_same h.2
    exact .inList hkey (Literal.isWritable_of_sameAll hitems hms)
  | inProperty hl hkey =>
    cases b <;> simp only [same, Bool.false_eq_true, Bool.and_eq_true] at h
    obtain ⟨m, rfl, hm⟩ := exists_of_literal_same h.1
    obtain rfl := eq_of_property_same h.2
    exact .inProperty (hl.of_same hm) hkey
  | presence hkey =>
    cases b <;> simp only [same, Bool.false_eq_true, decide_eq_true_eq] at h
    subst h
    exact .presence hkey
  | negation he ih =>
    cases b <;> simp only [same, Bool.false_eq_true, Bool.and_eq_true, decide_eq_true_eq] at h
    obtain ⟨rfl, hoperands⟩ := h
    obtain ⟨hlen, hall⟩ := exists_of_sameAll hoperands
    -- Operands that are equal item by item are equally many.
    obtain ⟨e', rfl⟩ := List.length_eq_one_iff.1 hlen.symm
    obtain ⟨e, hmem, hsame⟩ := hall e' List.mem_cons_self
    obtain rfl := List.mem_singleton.1 hmem
    exact .negation (ih hsame)
  | chain hop hlen hes ih =>
    cases b <;> simp only [same, Bool.false_eq_true, Bool.and_eq_true, decide_eq_true_eq] at h
    obtain ⟨rfl, hoperands⟩ := h
    obtain ⟨hlen', hall⟩ := exists_of_sameAll hoperands
    refine .chain hop (hlen' ▸ hlen) fun e' he' => ?_
    obtain ⟨e, he, hsame⟩ := hall e' he'
    exact ih e he hsame

mutual

/-- Equal expressions have equally many numbers. -/
theorem length_numbers_of_same (a b : Expr) (h : same a b = true) :
    a.numbers.length = b.numbers.length := by
  match a with
  | literal l =>
    obtain ⟨m, rfl, hm⟩ := exists_of_literal_same h
    exact Literal.length_numbers_of_same hm
  | property key =>
    obtain rfl := eq_of_property_same h
    rfl
  | list ls =>
    obtain ⟨ms, rfl, hms⟩ := exists_of_list_same h
    exact Literal.length_numbers_of_sameAll hms
  | comparison op l r =>
    cases b <;> simp only [same, Bool.false_eq_true, Bool.and_eq_true] at h
    rename_i l' r'
    rw [numbers, numbers, List.length_append, List.length_append,
      length_numbers_of_same l l' h.1.2, length_numbers_of_same r r' h.2]
  | membership v l =>
    cases b <;> simp only [same, Bool.false_eq_true, Bool.and_eq_true] at h
    rename_i v' l'
    rw [numbers, numbers, List.length_append, List.length_append,
      length_numbers_of_same v v' h.1, length_numbers_of_same l l' h.2]
  | logical op es =>
    cases b <;> simp only [same, Bool.false_eq_true, Bool.and_eq_true] at h
    rename_i op' es'
    exact length_numbersAll_of_sameAll es es' h.2
  | presence key =>
    cases b <;> simp only [same, Bool.false_eq_true] at h
    rfl

/-- Expressions that are equal item by item have equally many numbers. -/
theorem length_numbersAll_of_sameAll (es es' : List Expr) (h : sameAll es es' = true) :
    (numbersAll es).length = (numbersAll es').length := by
  match es with
  | [] =>
    cases es' with
    | nil => rfl
    | cons e' es' => simp [sameAll] at h
  | e :: es =>
    cases es' with
    | nil => simp [sameAll] at h
    | cons e' es' =>
      rw [sameAll, Bool.and_eq_true] at h
      rw [numbersAll, numbersAll, List.length_append, List.length_append,
        length_numbers_of_same e e' h.1, length_numbersAll_of_sameAll es es' h.2]

end

mutual

/-- An expression equals itself if its numbers are ones. -/
theorem same_self (e : Expr) (h : ∀ x ∈ e.numbers, x ≠ .nan) : same e e = true := by
  match e with
  | literal l => exact Literal.same_self h
  | property key => simp [same]
  | list ls => exact Literal.sameAll_self h
  | comparison op l r =>
    rw [numbers, List.forall_mem_append] at h
    simp [same, same_self l h.1, same_self r h.2]
  | membership v l =>
    rw [numbers, List.forall_mem_append] at h
    simp [same, same_self v h.1, same_self l h.2]
  | logical op es => simp [same, sameAll_self es h]
  | presence key => simp [same]

/-- Expressions equal themselves item by item if their numbers are ones. -/
theorem sameAll_self (es : List Expr) (h : ∀ x ∈ numbersAll es, x ≠ .nan) :
    sameAll es es = true := by
  match es with
  | [] => simp [sameAll]
  | e :: es =>
    rw [numbersAll, List.forall_mem_append] at h
    simp [sameAll, same_self e h.1, sameAll_self es h.2]

end

end Expr

end PluginCatalog.Constraint
