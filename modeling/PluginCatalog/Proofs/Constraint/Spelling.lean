import PluginCatalog.Proofs.Constraint.Verdict

/-!
# Keywords in any case

Neither the blanks between tokens nor the case of keywords change what a constraint means. The
automaton asks of a word only which keyword it spells, and keeps the word otherwise as it is; so a
change of the spelling that keeps the keywords (`Respelling`) goes through each of its steps
(`State.step_respell`) and through a whole run (`State.verdict_respell`): the same fault at the same
lexeme, or the same expression up to that change. Writing keywords in lower case is such a change.
-/

namespace PluginCatalog.Constraint

/-! ## Changes of the spelling -/

/-- Another spelling for words and numbers, by which a word spells the keyword that it spelled before.
-/
structure Respelling where
  /-- The spelling of a word. -/
  word : String → String
  /-- The number that stands for a number. -/
  number : Binary64 → Binary64
  /-- The keywords stay. -/
  ofWord?_word : ∀ w, Keyword.ofWord? (word w) = Keyword.ofWord? w

section Respell

variable (ρ : Respelling)

/-- A constant in another spelling. -/
def Literal.respell : Literal → Literal
  | .number x => .number (ρ.number x)
  | l => l

/-- A lexeme in another spelling. -/
def Lexeme.respell : Lexeme → Lexeme
  | .number x => .number (ρ.number x)
  | .word w => .word (ρ.word w)
  | t => t

namespace Expr

mutual

/-- An expression in another spelling; of its texts only the keys are words. -/
def respell : Expr → Expr
  | literal l => literal (l.respell ρ)
  | property key => property (ρ.word key)
  | list items => list (items.map (·.respell ρ))
  | comparison op l r => comparison op (respell l) (respell r)
  | membership v l => membership (respell v) (respell l)
  | logical op es => logical op (respellAll es)
  | presence key => presence (ρ.word key)

/-- Expressions in another spelling. -/
def respellAll : List Expr → List Expr
  | [] => []
  | e :: es => respell e :: respellAll es

end

/-- Expressions are respelled one by one. -/
theorem respellAll_eq (es : List Expr) : respellAll ρ es = es.map (respell ρ) := by
  induction es with
  | nil => rfl
  | cons e es ih => rw [respellAll, ih, List.map_cons]

/-- A chain in another spelling. -/
@[simp] theorem respell_chain (op : Connective) (es : List Expr) :
    (chain op es).respell ρ = chain op (es.map (respell ρ)) := by
  match es with
  | [] => simp [chain, respell, respellAll]
  | [e] => rfl
  | e :: e' :: es => simp [chain, respell, respellAll_eq]

/-- An expression under negations in another spelling. -/
@[simp] theorem respell_negated (n : Nat) (e : Expr) :
    (negated n e).respell ρ = negated n (e.respell ρ) := by
  induction n with
  | zero => rfl
  | succ n ih => simp [negated, respell, respellAll, ih]

end Expr

/-! ## States of the automaton -/

/-- A level in another spelling. -/
def Level.respell (l : Level) : Level :=
  ⟨l.alternatives.map (·.respell ρ), l.conjuncts.map (·.respell ρ), l.negations⟩

namespace Level

/-- One more operand in another spelling. -/
@[simp] theorem respell_add (l : Level) (e : Expr) :
    (l.add e).respell ρ = (l.respell ρ).add (e.respell ρ) := by
  simp [add, respell]

/-- The end of a chain of `AND` in another spelling. -/
@[simp] theorem respell_endChain (l : Level) : l.endChain.respell ρ = (l.respell ρ).endChain := by
  simp [endChain, respell]

/-- What has been read in another spelling. -/
@[simp] theorem respell_expr (l : Level) : l.expr.respell ρ = (l.respell ρ).expr := by
  simp [expr, endChain, respell]

end Level

/-- A role in another spelling. -/
def Role.respell : Role → Role
  | .container l => .container (l.respell ρ)
  | role => role

/-- What is expected in another spelling. -/
def Expecting.respell : Expecting → Expecting
  | .term => .term
  | .property role => .property (role.respell ρ)
  | .name role => .name (role.respell ρ)
  | .closeProperty role key => .closeProperty (role.respell ρ) (ρ.word key)
  | .inAfterLiteral l => .inAfterLiteral (l.respell ρ)
  | .comparison key => .comparison (ρ.word key)
  | .rightSide key op => .rightSide (ρ.word key) op
  | .openList key => .openList (ρ.word key)
  | .firstItem key => .firstItem (ρ.word key)
  | .item key items => .item (ρ.word key) (items.map (·.respell ρ))
  | .listEnd key items => .listEnd (ρ.word key) (items.map (·.respell ρ))
  | .connective => .connective

/-- A state in another spelling. -/
def State.respell (s : State) : State :=
  ⟨s.expecting.respell ρ, s.level.respell ρ, s.outer.map (·.respell ρ)⟩

namespace State

/-- What is expected in a state in another spelling. -/
@[simp] theorem expecting_respell (s : State) :
    (s.respell ρ).expecting = s.expecting.respell ρ := rfl

/-- A complete term in another spelling. -/
@[simp] theorem respell_complete (s : State) (e : Expr) :
    (s.complete e).respell ρ = (s.respell ρ).complete (e.respell ρ) := by
  simp [complete, respell, Expecting.respell]

/-- Another expectation in another spelling. -/
@[simp] theorem respell_expect (s : State) (e : Expecting) :
    (s.expect e).respell ρ = (s.respell ρ).expect (e.respell ρ) := rfl

/-- A property that is used, in another spelling. -/
@[simp] theorem respell_useProperty (s : State) (key : String) (role : Role) :
    (s.useProperty key role).respell ρ
      = (s.respell ρ).useProperty (ρ.word key) (role.respell ρ) := by
  cases role <;>
    simp [useProperty, Role.respell, Expecting.respell, Expr.respell]

/-! ## What a lexeme is read as -/

/-- A lexeme is the keyword that it was. -/
@[simp] theorem keyword?_respell (t : Lexeme) : keyword? (t.respell ρ) = keyword? t := by
  cases t <;> simp [Lexeme.respell, keyword?, ρ.ofWord?_word]

/-- A lexeme is the constant that it was, in another spelling. -/
@[simp] theorem literal?_respell (t : Lexeme) :
    literal? (t.respell ρ) = (literal? t).map (·.respell ρ) := by
  cases t with
  | word w =>
    simp only [Lexeme.respell, literal?, ρ.ofWord?_word]
    split <;> rfl
  | _ => rfl

/-- A mark is the mark that it was. -/
theorem respell_eq_mark_iff (t : Lexeme) {m : Lexeme} (h : m ∈ Lexeme.marks) :
    t.respell ρ = m ↔ t = m := by
  simp only [Lexeme.marks, List.mem_cons, List.not_mem_nil, or_false] at h
  rcases h with rfl | rfl | rfl | rfl | rfl <;> cases t <;> simp [Lexeme.respell]

/-! ## Steps and runs -/

/-- The beginning of a property in another spelling. -/
theorem readProperty_respell (s : State) (role : Role) (t : Lexeme) :
    (s.respell ρ).readProperty (role.respell ρ) (t.respell ρ)
      = (s.readProperty role t).map (respell ρ) := by
  cases t with
  | word w =>
    simp only [Lexeme.respell, readProperty, ρ.ofWord?_word]
    split
    · simp [Except.map]
    · rfl
  | _ => rfl

/-- The beginning of a term in another spelling. -/
theorem readTerm_respell (s : State) (t : Lexeme) :
    (s.respell ρ).readTerm (t.respell ρ) = (s.readTerm t).map (respell ρ) := by
  have hopen := respell_eq_mark_iff ρ t (m := .openParen) (by simp [Lexeme.marks])
  simp only [readTerm, keyword?_respell, literal?_respell, hopen]
  split
  · rfl
  split
  · rfl
  split
  · rfl
  cases literal? t with
  | some l => rfl
  | none => exact readProperty_respell ρ s .subject t

/-- What follows a complete term in another spelling. -/
theorem readConnective_respell (s : State) (t : Lexeme) :
    (s.respell ρ).readConnective (t.respell ρ) = (s.readConnective t).map (respell ρ) := by
  simp only [readConnective, keyword?_respell]
  split
  · rfl
  split
  · simp [Except.map, respell, Expecting.respell]
  obtain ⟨expecting, level, outer⟩ := s
  cases outer with
  | nil => rfl
  | cons around outer =>
    cases t with
    | closeParen => simp [Lexeme.respell, Except.map, respell, Expecting.respell]
    | _ => rfl

/-- A step in another spelling: the same fault, or the state that it led to. -/
theorem step_respell (s : State) (t : Lexeme) :
    (s.respell ρ).step (t.respell ρ) = (s.step t).map (respell ρ) := by
  have hcloseBracket := respell_eq_mark_iff ρ t (m := .closeBracket) (by simp [Lexeme.marks])
  have hopenBracket := respell_eq_mark_iff ρ t (m := .openBracket) (by simp [Lexeme.marks])
  have hcomma := respell_eq_mark_iff ρ t (m := .comma) (by simp [Lexeme.marks])
  -- Each expectation asks for a mark, a keyword or a constant, and these are what they were.
  simp only [step, expecting_respell]
  cases s.expecting with
  | term => exact readTerm_respell ρ s t
  | property role => exact readProperty_respell ρ s role t
  | name role => cases t <;> rfl
  | connective => exact readConnective_respell ρ s t
  | closeProperty role key =>
    simp only [Expecting.respell, hcloseBracket]
    split <;> simp [Except.map]
  | inAfterLiteral l =>
    simp only [Expecting.respell, keyword?_respell]
    split <;> simp [Except.map, Expecting.respell, Role.respell]
  | comparison key =>
    simp only [Expecting.respell, keyword?_respell]
    split
    · simp [Except.map, Expecting.respell]
    · cases t <;> rfl
  | rightSide key op =>
    simp only [Expecting.respell, literal?_respell]
    cases literal? t <;> simp [Except.map, Expr.respell]
  | openList key =>
    simp only [Expecting.respell, hopenBracket]
    split <;> simp [Except.map, Expecting.respell]
  | firstItem key =>
    simp only [Expecting.respell, hcloseBracket, literal?_respell]
    split
    · simp [Except.map, Expr.respell]
    · cases literal? t <;> simp [Except.map, Expecting.respell]
  | item key items =>
    simp only [Expecting.respell, literal?_respell]
    cases literal? t <;> simp [Except.map, Expecting.respell]
  | listEnd key items =>
    simp only [Expecting.respell, hcomma, hcloseBracket]
    split
    · simp [Except.map, Expecting.respell]
    split <;> simp [Except.map, Expr.respell]

/-- The end in another spelling: the same fault, or the expression that was read. -/
theorem finish_respell (s : State) : (s.respell ρ).finish = s.finish.map (Expr.respell ρ) := by
  obtain ⟨expecting, level, outer⟩ := s
  cases expecting with
  | connective => cases outer <;> simp [finish, respell, Expecting.respell, Except.map]
  | _ => rfl

/-- What a run finds in another spelling: the same fault at the same lexeme, or the expression that it
found. -/
theorem verdict_respell (s : State) (ls : List Lexeme) :
    (s.respell ρ).verdict (ls.map (Lexeme.respell ρ)) = (s.verdict ls).map (Expr.respell ρ) := by
  induction ls generalizing s with
  | nil =>
    rw [List.map_nil, verdict, verdict, finish_respell]
    cases s.finish <;> rfl
  | cons t ts ih =>
    rw [List.map_cons, verdict, verdict, step_respell]
    cases s.step t with
    | error fault => rfl
    | ok s' =>
      show ((s'.respell ρ).verdict (ts.map (Lexeme.respell ρ))).mapError _ = _
      rw [ih]
      dsimp only
      cases s'.verdict ts <;> rfl

end State

end Respell

/-! ## Keywords in lower case -/

namespace Keyword

/-- A word without the case of a keyword: a keyword in lower case, any other word as it is. -/
def fold (w : String) : String :=
  match ofWord? w with
  | some k => k.text
  | none => w

/-- A word spells the keyword that it spelled. -/
theorem ofWord?_fold (w : String) : ofWord? (fold w) = ofWord? w := by
  unfold fold
  cases h : ofWord? w with
  | some k => exact ofWord?_eq_some_iff.2 (Text.sameWord_refl k.text)
  | none => exact h

/-- Words that are the same but for their case spell the same keyword, or none. -/
theorem ofWord?_congr {w w' : String} (h : Text.sameWord w w' = .true) : ofWord? w = ofWord? w' := by
  have hfold : Text.foldCase w = Text.foldCase w' := of_decide_eq_true h
  unfold ofWord? Text.sameWord
  rw [hfold]

/-- Words lose their difference exactly if it is the case of a keyword. -/
theorem fold_eq_fold_iff {w w' : String} :
    fold w = fold w' ↔ w = w' ∨ (ofWord? w).isSome = .true ∧ Text.sameWord w w' = .true := by
  constructor
  · intro h
    have hsame : ofWord? w = ofWord? w' := by rw [← ofWord?_fold w, h, ofWord?_fold]
    cases hw : ofWord? w with
    | none =>
      rw [hw] at hsame
      unfold fold at h
      rw [hw, ← hsame] at h
      exact .inl h
    | some k =>
      rw [hw] at hsame
      have hk : Text.foldCase w = Text.foldCase k.text :=
        of_decide_eq_true (ofWord?_eq_some_iff.1 hw)
      have hk' : Text.foldCase w' = Text.foldCase k.text :=
        of_decide_eq_true (ofWord?_eq_some_iff.1 hsame.symm)
      exact .inr ⟨rfl, decide_eq_true (hk.trans hk'.symm)⟩
  · rintro (rfl | ⟨hsome, hsame⟩)
    · rfl
    · obtain ⟨k, hk⟩ := Option.isSome_iff_exists.1 hsome
      rw [fold, fold, ← ofWord?_congr hsame, hk]

end Keyword

/-- Keywords in lower case, and another number for each number. -/
def Respelling.keywords (number : Binary64 → Binary64) : Respelling :=
  ⟨Keyword.fold, number, Keyword.ofWord?_fold⟩

/-- Results that a function maps to one are values that it maps to one, or the same error. -/
theorem exists_of_map_eq_map {ε α β : Type} {f : α → β} {x y : Except ε α} (h : x.map f = y.map f) :
    (∃ a b, x = .ok a ∧ y = .ok b ∧ f a = f b) ∨ ∃ e, x = .error e ∧ y = .error e := by
  cases x with
  | ok a =>
    cases y with
    | ok b => exact .inl ⟨a, b, rfl, rfl, Except.ok.inj h⟩
    | error e => cases h
  | error e =>
    cases y with
    | ok b => cases h
    | error e' => exact .inr ⟨e, rfl, congrArg _ (Except.error.inj h).symm⟩

/-- Two texts whose tokens are the same but for their places and the case of keywords are both
constraints, with expressions that are the same but for the case of keys that spell keywords, or both
have the same error, at the token of the same number or at the end of the text. The function `number`
says which numbers count as the same; it may be the identity, or forget the sign of zero. -/
theorem parse_keyword_case (number : Binary64 → Binary64) (text text' : String)
    (tokens tokens' : List Token) (hscan : Token.scan text.toList = .ok tokens)
    (hscan' : Token.scan text'.toList = .ok tokens')
    (hsame : tokens.map (·.lexeme.respell (.keywords number))
      = tokens'.map (·.lexeme.respell (.keywords number))) :
    (∃ c c', parse text = .ok c ∧ parse text' = .ok c' ∧
      c.root.respell (.keywords number) = c'.root.respell (.keywords number)) ∨
    (tokens = [] ∧ tokens' = [] ∧
      parse text = .error ⟨0, .empty⟩ ∧ parse text' = .error ⟨0, .empty⟩) ∨
    ∃ k ≤ tokens.length, ∃ fault,
      parse text = .error ⟨Token.place (Text.byteLength text.toList) tokens k, fault⟩ ∧
      parse text' = .error ⟨Token.place (Text.byteLength text'.toList) tokens' k, fault⟩ := by
  have hlength : tokens.length = tokens'.length := by simpa using congrArg List.length hsame
  by_cases hne : tokens = []
  · subst hne
    obtain rfl : tokens' = [] := List.eq_nil_of_length_eq_zero hlength.symm
    refine .inr (.inl ⟨rfl, rfl, parse_eq_error_iff.2 ?_, parse_eq_error_iff.2 ?_⟩)
    · rw [parseExpr, hscan]
    · rw [parseExpr, hscan']
  have hne' : tokens' ≠ [] := by
    rintro rfl
    exact hne (List.eq_nil_of_length_eq_zero hlength)
  -- Both runs, respelled, are the run on the lexemes that the two texts share.
  have hverdict : (State.start.verdict (tokens.map (·.lexeme))).map (Expr.respell (.keywords number))
      = (State.start.verdict (tokens'.map (·.lexeme))).map (Expr.respell (.keywords number)) := by
    rw [← State.verdict_respell, ← State.verdict_respell, List.map_map, List.map_map]
    exact congrArg _ hsame
  have hread := parseExpr_eq_verdict hscan hne
  have hread' := parseExpr_eq_verdict hscan' hne'
  rcases exists_of_map_eq_map hverdict with ⟨e, e', hv, hv', hroot⟩ | ⟨⟨k, fault⟩, hv, hv'⟩
  · rw [hv] at hread
    rw [hv'] at hread'
    exact .inl ⟨⟨text, e⟩, ⟨text', e'⟩, parse_eq_ok_iff.2 ⟨hread, rfl⟩,
      parse_eq_ok_iff.2 ⟨hread', rfl⟩, hroot⟩
  · obtain ⟨hk, -⟩ := State.steps_of_verdict_eq_error hv
    rw [List.length_map] at hk
    rw [hv] at hread
    rw [hv'] at hread'
    exact .inr (.inr ⟨k, hk, fault, parse_eq_error_iff.2 hread, parse_eq_error_iff.2 hread'⟩)

/-- Other blanks, another case of `NOT` and of `TRUE`, and a keyword between brackets, which keeps its
case. -/
theorem parse_keyword_case_not :
    ∃ c c', parse "NOT [In]==TRUE" = .ok c ∧ parse "\tnot [IN] == true " = .ok c' ∧
      c.root = .logical .not [.comparison .eq (.property "In") (.literal (.bool true))] ∧
      c.root.respell (.keywords id) = c'.root.respell (.keywords id) := by
  have hscan : Token.scan "NOT [In]==TRUE".toList = .ok
      [⟨.word "NOT", ['N', 'O', 'T'], 0⟩, ⟨.openBracket, ['['], 4⟩, ⟨.word "In", ['I', 'n'], 5⟩,
       ⟨.closeBracket, [']'], 7⟩, ⟨.operator .eq, ['=', '='], 8⟩,
       ⟨.word "TRUE", ['T', 'R', 'U', 'E'], 10⟩] := by decide +kernel
  have hscan' : Token.scan "\tnot [IN] == true ".toList = .ok
      [⟨.word "not", ['n', 'o', 't'], 1⟩, ⟨.openBracket, ['['], 5⟩, ⟨.word "IN", ['I', 'N'], 6⟩,
       ⟨.closeBracket, [']'], 8⟩, ⟨.operator .eq, ['=', '='], 10⟩,
       ⟨.word "true", ['t', 'r', 'u', 'e'], 13⟩] := by decide +kernel
  have hparse : parse "NOT [In]==TRUE" = .ok ⟨"NOT [In]==TRUE",
      .logical .not [.comparison .eq (.property "In") (.literal (.bool true))]⟩ := by
    rw [parse, parseExpr, hscan]
    rfl
  rcases parse_keyword_case id _ _ _ _ hscan hscan' (by decide) with
    ⟨c, c', hc, hc', hroot⟩ | ⟨hnil, -⟩ | ⟨k, -, fault, herror, -⟩
  · rw [hparse] at hc
    cases hc
    exact ⟨_, c', hparse, hc', rfl, hroot⟩
  · cases hnil
  · rw [hparse] at herror
    cases herror

end PluginCatalog.Constraint
