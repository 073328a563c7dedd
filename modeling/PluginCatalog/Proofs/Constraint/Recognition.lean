import PluginCatalog.Proofs.Constraint.Grammar

/-!
# The automaton reads the derivations

The pushdown automaton accepts exactly the lexemes of the derivations of a disjunction, and gives
the expression of the derivation. That it accepts them is an induction over the derivation: the
lexemes of a term take the automaton from where a term is expected to where the term is complete
(`Term.steps_lexemes`). That it accepts nothing else rests on an invariant of its states (`Reads`):
the lexemes read so far are, for each expression that is open, a beginning of a disjunction
(`Opening`), and after them what the state has seen of the current term. One step keeps the
invariant (`Reads.step`), hence every run does, and in an accepting state it yields a derivation.
-/

namespace PluginCatalog.Constraint

namespace State

/-! ## Runs on lexemes -/

/-- The state after some lexemes. -/
def steps (s : State) : List Lexeme → Except SyntaxFault State
  | [] => .ok s
  | t :: ts =>
    match s.step t with
    | .error fault => .error fault
    | .ok s' => s'.steps ts

/-- A run on no lexemes stays. -/
@[simp] theorem steps_nil (s : State) : s.steps [] = .ok s := rfl

/-- A run goes on after a step. -/
theorem steps_cons {s s' : State} {t : Lexeme} (h : s.step t = .ok s') (ts : List Lexeme) :
    s.steps (t :: ts) = s'.steps ts := by
  simp [steps, h]

/-- A run goes on after a run. -/
theorem steps_append {s s' : State} {ts : List Lexeme} (h : s.steps ts = .ok s')
    (us : List Lexeme) : s.steps (ts ++ us) = s'.steps us := by
  induction ts generalizing s with
  | nil => cases h; rfl
  | cons t ts ih =>
    rw [steps] at h
    split at h
    · cases h
    · rename_i s'' hs
      rw [List.cons_append, steps_cons hs]
      exact ih h

/-- Reading tokens is a run on their lexemes that ends in an accepting state. -/
theorem run_eq_ok_iff {stop : Nat} {s : State} {ts : List Token} {e : Expr} :
    s.run stop ts = .ok e ↔
      ∃ s', s.steps (ts.map (·.lexeme)) = .ok s' ∧ s'.finish = .ok e := by
  induction ts generalizing s with
  | nil =>
    rw [run]
    constructor
    · intro h
      refine ⟨s, rfl, ?_⟩
      cases hf : s.finish with
      | error fault =>
        rw [hf] at h
        cases h
      | ok e' =>
        rw [hf] at h
        cases h
        rfl
    · rintro ⟨s', hs, hf⟩
      cases hs
      rw [hf]
      rfl
  | cons t ts ih =>
    rw [run, List.map_cons, steps]
    cases hs : s.step t.lexeme with
    | error fault => simp
    | ok s' => exact ih

end State

/-! ## Derivations are accepted -/

namespace Level

/-- Negations before a negation count as well as after it. -/
theorem negated_not (n : Nat) (e : Expr) :
    Expr.negated n (.logical .not [e]) = Expr.negated (n + 1) e := by
  induction n with
  | zero => rfl
  | succ n ih =>
    rw [Expr.negated, ih]
    rfl

/-- One more negation before an operand is a negation of the operand. -/
theorem negate_add (l : Level) (e : Expr) : l.negate.add e = l.add (.logical .not [e]) := by
  simp only [add, negate, negated_not]

end Level

namespace Grammar

open State (steps)

/-- A chain of `AND` is its operands as a chain. -/
theorem Conjunction.expr_eq (c : Conjunction) : c.expr = .chain .and c.operands := by
  cases c with
  | last t => rfl
  | more t w c => cases c <;> rfl

/-- A chain of `OR` is its operands as a chain. -/
theorem Disjunction.expr_eq (d : Disjunction) : d.expr = .chain .or d.operands := by
  cases d with
  | last c => rfl
  | more c w d => cases d <;> rfl

/-- A property is read for its role. -/
theorem Property.steps_role (p : Property) (role : Role) (l : Level) (outer : List Level) :
    steps ⟨.property role, l, outer⟩ p.lexemes
      = .ok (State.useProperty ⟨.property role, l, outer⟩ p.key role) := by
  cases p with
  | bracketed key => cases role <;> rfl
  | bare key free =>
    have hstep : State.step ⟨.property role, l, outer⟩ (.word key)
        = .ok (State.useProperty ⟨.property role, l, outer⟩ key role) := by
      simp [State.step, State.readProperty, Keyword.ofWord?_eq_none_iff.2 free]
    rw [lexemes, State.steps_cons hstep]
    rfl

/-- Where a term is expected, a property is read as the left side of one. -/
theorem Property.steps_term (p : Property) (l : Level) (outer : List Level) :
    steps ⟨.term, l, outer⟩ p.lexemes = .ok ⟨.comparison p.key, l, outer⟩ := by
  cases p with
  | bracketed key => rfl
  | bare key free =>
    have hstep : State.step ⟨.term, l, outer⟩ (.word key) = .ok ⟨.comparison key, l, outer⟩ := by
      simp [State.step, State.readTerm, State.keyword?, State.literal?, State.readProperty,
        State.useProperty, State.expect, Keyword.ofWord?_eq_none_iff.2 free]
    rw [lexemes, State.steps_cons hstep]
    rfl

/-- The lexeme of a literal is no keyword of a term and opens no group. -/
theorem Constant.step_term (c : Constant) (l : Level) (outer : List Level) :
    State.step ⟨.term, l, outer⟩ c.lexeme = .ok ⟨.inAfterLiteral c.literal, l, outer⟩ := by
  have hlit := c.literal?_lexeme
  cases c with
  | string s => rfl
  | number x => rfl
  | true w | false w =>
    have hparen : w.lexeme ≠ .openParen := by simp [Spelling.lexeme]
    simp only [lexeme] at hlit ⊢
    simp [State.step, State.readTerm, hlit, hparen, State.expect]

/-- The lexemes of one literal and more begin with the one. -/
theorem Constant.lexemesOf_cons (c : Constant) (items : List Constant) :
    lexemesOf (c :: items)
      = c.lexeme :: (items.flatMap fun i => [Lexeme.comma, i.lexeme]) := by
  induction items generalizing c with
  | nil => rfl
  | cons i items ih =>
    have := ih i
    simp only [lexemesOf, List.map_cons, List.intersperse_cons_cons, List.flatMap_cons] at this ⊢
    rw [this]
    rfl

/-- Further items of a list are read behind those that have been read. -/
theorem Constant.steps_items (key : String) (l : Level) (outer : List Level)
    (items : List Constant) (before : List Literal) :
    steps ⟨.listEnd key before, l, outer⟩ (items.flatMap fun i => [Lexeme.comma, i.lexeme])
      = .ok ⟨.listEnd key ((items.map literal).reverse ++ before), l, outer⟩ := by
  induction items generalizing before with
  | nil => rfl
  | cons i items ih =>
    have hcomma : State.step ⟨.listEnd key before, l, outer⟩ .comma
        = .ok ⟨.item key before, l, outer⟩ := rfl
    have hitem : State.step ⟨.item key before, l, outer⟩ i.lexeme
        = .ok ⟨.listEnd key (i.literal :: before), l, outer⟩ := by
      simp [State.step, State.expect]
    rw [List.flatMap_cons, List.cons_append, State.steps_cons hcomma, List.cons_append,
      State.steps_cons hitem, List.nil_append, ih]
    simp

/-- The items of a list with its closing bracket complete the membership. -/
theorem Constant.steps_list (key : String) (l : Level) (outer : List Level)
    (items : List Constant) :
    steps ⟨.firstItem key, l, outer⟩ (lexemesOf items ++ [.closeBracket])
      = .ok ⟨.connective,
          l.add (.membership (.property key) (.list (items.map literal))), outer⟩ := by
  cases items with
  | nil => rfl
  | cons c items =>
    have hclose (s : List Literal) : State.step ⟨.listEnd key s, l, outer⟩ .closeBracket
        = .ok ⟨.connective, l.add (.membership (.property key) (.list s.reverse)), outer⟩ := rfl
    have hne : c.lexeme ≠ .closeBracket := by cases c <;> simp [lexeme, Spelling.lexeme]
    have hfirst : State.step ⟨.firstItem key, l, outer⟩ c.lexeme
        = .ok ⟨.listEnd key [c.literal], l, outer⟩ := by
      simp [State.step, State.expect, hne]
    rw [lexemesOf_cons, List.cons_append, State.steps_cons hfirst,
      State.steps_append (steps_items key l outer items [c.literal]), State.steps_cons (hclose _)]
    simp

mutual

/-- The lexemes of a term complete it where a term is expected. -/
theorem Term.steps_lexemes (t : Term) (l : Level) (outer : List Level) :
    steps ⟨.term, l, outer⟩ t.lexemes = .ok ⟨.connective, l.add t.expr, outer⟩ := by
  match t with
  | .negation w t =>
    have hword : State.step ⟨.term, l, outer⟩ w.lexeme = .ok ⟨.term, l.negate, outer⟩ := by
      simp [State.step, State.readTerm]
    rw [Term.lexemes, State.steps_cons hword, t.steps_lexemes, Level.negate_add]
    rfl
  | .group d =>
    -- The group is read on a level of its own, with the level around it on the stack; the closing
    -- parenthesis adds its expression there as one operand.
    obtain ⟨l', hd, hexpr⟩ := d.steps_lexemes [] (l :: outer)
    have hopen : State.step ⟨.term, l, outer⟩ .openParen
        = .ok ⟨.term, ⟨[], [], 0⟩, l :: outer⟩ := rfl
    have hclose : State.step ⟨.connective, l', l :: outer⟩ .closeParen
        = .ok ⟨.connective, l.add l'.expr, outer⟩ := rfl
    rw [Term.lexemes, State.steps_cons hopen, State.steps_append hd, State.steps_cons hclose,
      State.steps_nil, Level.expr, hexpr, Term.expr, d.expr_eq]
    simp
  | .presence w p =>
    have hword : State.step ⟨.term, l, outer⟩ w.lexeme
        = .ok ⟨.property .presence, l, outer⟩ := by
      simp [State.step, State.readTerm, State.expect]
    rw [Term.lexemes, State.steps_cons hword, p.steps_role]
    rfl
  | .comparison p op c =>
    have hop : State.step ⟨.comparison p.key, l, outer⟩ (.operator op)
        = .ok ⟨.rightSide p.key op, l, outer⟩ := rfl
    have hright : State.step ⟨.rightSide p.key op, l, outer⟩ c.lexeme
        = .ok ⟨.connective,
            l.add (.comparison op (.property p.key) (.literal c.literal)), outer⟩ := by
      simp [State.step, State.complete]
    rw [Term.lexemes, State.steps_append (p.steps_term l outer), State.steps_cons hop,
      State.steps_cons hright]
    rfl
  | .inList p w items =>
    have hword : State.step ⟨.comparison p.key, l, outer⟩ w.lexeme
        = .ok ⟨.openList p.key, l, outer⟩ := by
      simp [State.step, State.expect]
    have hopen : State.step ⟨.openList p.key, l, outer⟩ .openBracket
        = .ok ⟨.firstItem p.key, l, outer⟩ := rfl
    rw [Term.lexemes, State.steps_append (p.steps_term l outer), State.steps_cons hword,
      State.steps_cons hopen, Constant.steps_list]
    rfl
  | .inProperty c w p =>
    have hword : State.step ⟨.inAfterLiteral c.literal, l, outer⟩ w.lexeme
        = .ok ⟨.property (.container c.literal), l, outer⟩ := by
      simp [State.step, State.expect]
    rw [Term.lexemes, State.steps_cons (c.step_term l outer), State.steps_cons hword, p.steps_role]
    rfl

/-- The lexemes of a chain of `AND` add its operands to the conjuncts. -/
theorem Conjunction.steps_lexemes (c : Conjunction) (alternatives conjuncts : List Expr)
    (outer : List Level) :
    steps ⟨.term, ⟨alternatives, conjuncts, 0⟩, outer⟩ c.lexemes
      = .ok ⟨.connective, ⟨alternatives, c.operands.reverse ++ conjuncts, 0⟩, outer⟩ := by
  match c with
  | .last t =>
    rw [Conjunction.lexemes, t.steps_lexemes]
    rfl
  | .more t w rest =>
    have hword : State.step ⟨.connective, ⟨alternatives, t.expr :: conjuncts, 0⟩, outer⟩ w.lexeme
        = .ok ⟨.term, ⟨alternatives, t.expr :: conjuncts, 0⟩, outer⟩ := by
      simp [State.step, State.readConnective, State.expect]
    rw [Conjunction.lexemes, State.steps_append (t.steps_lexemes _ outer)]
    -- The first operand waits among the conjuncts while the rest of the chain is read.
    show steps ⟨.connective, ⟨alternatives, t.expr :: conjuncts, 0⟩, outer⟩ _ = _
    rw [State.steps_cons hword, rest.steps_lexemes, Conjunction.operands]
    simp

/-- The lexemes of a chain of `OR` add its operands to the alternatives, once the last chain of
`AND` in it has ended. -/
theorem Disjunction.steps_lexemes (d : Disjunction) (alternatives : List Expr)
    (outer : List Level) :
    ∃ l : Level, steps ⟨.term, ⟨alternatives, [], 0⟩, outer⟩ d.lexemes = .ok ⟨.connective, l, outer⟩ ∧
      l.endChain.alternatives = d.operands.reverse ++ alternatives := by
  match d with
  | .last c =>
    -- The last chain of `AND` has not ended yet, so only `endChain` of the level is known.
    refine ⟨_, c.steps_lexemes alternatives [] outer, ?_⟩
    simp [Level.endChain, Disjunction.operands, c.expr_eq]
  | .more c w rest =>
    -- `OR` ends the chain of `AND` before it, which becomes the next alternative of the rest.
    obtain ⟨l, hrest, hl⟩ := rest.steps_lexemes (c.expr :: alternatives) outer
    have hword : State.step ⟨.connective, ⟨alternatives, c.operands.reverse ++ [], 0⟩, outer⟩ w.lexeme
        = .ok ⟨.term, ⟨c.expr :: alternatives, [], 0⟩, outer⟩ := by
      simp [State.step, State.readConnective, Level.endChain, c.expr_eq]
    refine ⟨l, ?_, ?_⟩
    · rw [Disjunction.lexemes, State.steps_append (c.steps_lexemes alternatives [] outer),
        State.steps_cons hword, hrest]
    · simp [hl, Disjunction.operands]

end

/-- A derivation is accepted with its expression. -/
theorem Disjunction.accepted (d : Disjunction) :
    ∃ s, steps .start d.lexemes = .ok s ∧ s.finish = .ok d.expr := by
  obtain ⟨l, hd, hl⟩ := d.steps_lexemes [] []
  refine ⟨_, hd, ?_⟩
  simp [State.finish, Level.expr, hl, d.expr_eq]

/-! ## Open expressions

What has been read of an open expression determines the derivations that it can become. -/

/-- A term under negations, the outermost first. -/
def Term.negated : List (Spelling .not) → Term → Term
  | [], t => t
  | w :: ws, t => .negation w (t.negated ws)

/-- The lexemes of a term under negations. -/
theorem Term.lexemes_negated (ws : List (Spelling .not)) (t : Term) :
    (t.negated ws).lexemes = ws.map Spelling.lexeme ++ t.lexemes := by
  induction ws with
  | nil => rfl
  | cons w ws ih => simp [negated, lexemes, ih]

/-- The expression of a term under negations. -/
theorem Term.expr_negated (ws : List (Spelling .not)) (t : Term) :
    (t.negated ws).expr = t.expr.negated ws.length := by
  induction ws with
  | nil => rfl
  | cons w ws ih => simp [negated, expr, Expr.negated, ih]

/-- A chain of `AND` by its operands before the last one. -/
def Conjunction.ofList : List (Term × Spelling .and) → Term → Conjunction
  | [], t => .last t
  | c :: cs, t => .more c.1 c.2 (ofList cs t)

/-- The lexemes of a chain of `AND` by its operands. -/
theorem Conjunction.lexemes_ofList (cs : List (Term × Spelling .and)) (t : Term) :
    (ofList cs t).lexemes = (cs.flatMap fun c => c.1.lexemes ++ [c.2.lexeme]) ++ t.lexemes := by
  induction cs with
  | nil => rfl
  | cons c cs ih => simp [ofList, lexemes, ih]

/-- The operands of a chain of `AND` by its operands. -/
theorem Conjunction.operands_ofList (cs : List (Term × Spelling .and)) (t : Term) :
    (ofList cs t).operands = (cs.map (·.1.expr)) ++ [t.expr] := by
  induction cs with
  | nil => rfl
  | cons c cs ih => simp [ofList, operands, ih]

/-- A chain of `OR` by its operands before the last one. -/
def Disjunction.ofList : List (Conjunction × Spelling .or) → Conjunction → Disjunction
  | [], c => .last c
  | d :: ds, c => .more d.1 d.2 (ofList ds c)

/-- The lexemes of a chain of `OR` by its operands. -/
theorem Disjunction.lexemes_ofList (ds : List (Conjunction × Spelling .or)) (c : Conjunction) :
    (ofList ds c).lexemes = (ds.flatMap fun d => d.1.lexemes ++ [d.2.lexeme]) ++ c.lexemes := by
  induction ds with
  | nil => rfl
  | cons d ds ih => simp [ofList, lexemes, ih]

/-- The operands of a chain of `OR` by its operands. -/
theorem Disjunction.operands_ofList (ds : List (Conjunction × Spelling .or)) (c : Conjunction) :
    (ofList ds c).operands = (ds.map (·.1.expr)) ++ [c.expr] := by
  induction ds with
  | nil => rfl
  | cons d ds ih => simp [ofList, operands, ih]

/-- What a disjunction has before one of its terms. -/
structure Opening where
  /-- The finished chains of `AND`, each with the `OR` after it. -/
  alternatives : List (Conjunction × Spelling .or)
  /-- The finished terms of the current chain of `AND`, each with the `AND` after it. -/
  conjuncts : List (Term × Spelling .and)
  /-- The `NOT`s before the term. -/
  negations : List (Spelling .not)

namespace Opening

/-- Nothing before the first term. -/
def start : Opening := ⟨[], [], []⟩

/-- The lexemes before the term. -/
def lexemes (o : Opening) : List Lexeme :=
  (o.alternatives.flatMap fun d => d.1.lexemes ++ [d.2.lexeme])
    ++ (o.conjuncts.flatMap fun c => c.1.lexemes ++ [c.2.lexeme])
    ++ o.negations.map Spelling.lexeme

/-- What the automaton keeps of what it has read. -/
def level (o : Opening) : Level :=
  ⟨(o.alternatives.map (·.1.expr)).reverse, (o.conjuncts.map (·.1.expr)).reverse,
    o.negations.length⟩

/-- The current chain of `AND`, ended by the term. -/
def chain (o : Opening) (t : Term) : Conjunction := .ofList o.conjuncts (t.negated o.negations)

/-- The disjunction, ended by the term. -/
def close (o : Opening) (t : Term) : Disjunction := .ofList o.alternatives (o.chain t)

/-- One more `NOT` before the term. -/
def negate (o : Opening) (w : Spelling .not) : Opening := { o with negations := o.negations ++ [w] }

/-- The term followed by `AND`. -/
def conjoin (o : Opening) (t : Term) (w : Spelling .and) : Opening :=
  ⟨o.alternatives, o.conjuncts ++ [(t.negated o.negations, w)], []⟩

/-- The term followed by `OR`. -/
def alternate (o : Opening) (t : Term) (w : Spelling .or) : Opening :=
  ⟨o.alternatives ++ [(o.chain t, w)], [], []⟩

/-- There are no lexemes before the first term. -/
theorem lexemes_start : start.lexemes = [] := rfl

variable (o : Opening) (t : Term)

/-- The lexemes of the disjunction that a term ends. -/
theorem lexemes_close : (o.close t).lexemes = o.lexemes ++ t.lexemes := by
  simp [close, chain, lexemes, Disjunction.lexemes_ofList, Conjunction.lexemes_ofList,
    Term.lexemes_negated]

/-- The expression of the disjunction that a term ends. -/
theorem expr_close : (o.close t).expr = (o.level.add t.expr).expr := by
  rw [Disjunction.expr_eq, close, Disjunction.operands_ofList, Conjunction.expr_eq, chain,
    Conjunction.operands_ofList, Term.expr_negated]
  simp [Level.expr, Level.endChain, Level.add, level]

/-- The lexemes up to one more `NOT`. -/
theorem lexemes_negate (w : Spelling .not) : (o.negate w).lexemes = o.lexemes ++ [w.lexeme] := by
  simp [negate, lexemes]

/-- The level up to one more `NOT`. -/
theorem level_negate (w : Spelling .not) : (o.negate w).level = o.level.negate := by
  simp [negate, level, Level.negate]

/-- The lexemes up to the `AND` after a term. -/
theorem lexemes_conjoin (w : Spelling .and) :
    (o.conjoin t w).lexemes = o.lexemes ++ t.lexemes ++ [w.lexeme] := by
  simp [conjoin, lexemes, Term.lexemes_negated]

/-- The level up to the `AND` after a term. -/
theorem level_conjoin (w : Spelling .and) : (o.conjoin t w).level = o.level.add t.expr := by
  simp [conjoin, level, Level.add, Term.expr_negated]

/-- The lexemes up to the `OR` after a term. -/
theorem lexemes_alternate (w : Spelling .or) :
    (o.alternate t w).lexemes = o.lexemes ++ t.lexemes ++ [w.lexeme] := by
  simp [alternate, lexemes, chain, Conjunction.lexemes_ofList, Term.lexemes_negated]

/-- The level up to the `OR` after a term. -/
theorem level_alternate (w : Spelling .or) :
    (o.alternate t w).level = (o.level.add t.expr).endChain := by
  simp [alternate, level, Level.add, Level.endChain, chain, Conjunction.expr_eq,
    Conjunction.operands_ofList, Term.expr_negated]

end Opening

/-! ## The invariant of the automaton -/

/-- The lexemes of a term before its property, by what the property is read for. -/
inductive ReadsRole : Role → List Lexeme → Prop where
  | subject : ReadsRole .subject []
  | presence (w : Spelling .exist) : ReadsRole .presence [w.lexeme]
  | container (c : Constant) (w : Spelling .in) :
    ReadsRole (.container c.literal) [c.lexeme, w.lexeme]

/-- The lexemes of a term that is not complete, by what is expected next. -/
inductive ReadsTerm : Expecting → List Lexeme → Prop where
  | term : ReadsTerm .term []
  | property {role : Role} {ls : List Lexeme} (h : ReadsRole role ls) :
    ReadsTerm (.property role) ls
  | name {role : Role} {ls : List Lexeme} (h : ReadsRole role ls) :
    ReadsTerm (.name role) (ls ++ [.openBracket])
  | closeProperty {role : Role} {ls : List Lexeme} (h : ReadsRole role ls) (key : String) :
    ReadsTerm (.closeProperty role key) (ls ++ [.openBracket, .word key])
  | inAfterLiteral (c : Constant) : ReadsTerm (.inAfterLiteral c.literal) [c.lexeme]
  | comparison (p : Property) : ReadsTerm (.comparison p.key) p.lexemes
  | rightSide (p : Property) (op : Comparison) :
    ReadsTerm (.rightSide p.key op) (p.lexemes ++ [.operator op])
  | openList (p : Property) (w : Spelling .in) :
    ReadsTerm (.openList p.key) (p.lexemes ++ [w.lexeme])
  | firstItem (p : Property) (w : Spelling .in) :
    ReadsTerm (.firstItem p.key) (p.lexemes ++ [w.lexeme, .openBracket])
  | item (p : Property) (w : Spelling .in) (items : List Constant) (h : items ≠ []) :
    ReadsTerm (.item p.key (items.map Constant.literal).reverse)
      (p.lexemes ++ w.lexeme :: .openBracket :: (Constant.lexemesOf items ++ [.comma]))
  | listEnd (p : Property) (w : Spelling .in) (items : List Constant) (h : items ≠ []) :
    ReadsTerm (.listEnd p.key (items.map Constant.literal).reverse)
      (p.lexemes ++ w.lexeme :: .openBracket :: Constant.lexemesOf items)

/-- The lexemes up to the last parenthesis that is open, by the openings before the parentheses,
innermost first. -/
def lexemesBefore : List Opening → List Lexeme
  | [] => []
  | o :: outer => lexemesBefore outer ++ o.lexemes ++ [.openParen]

/-- The lexemes that lead to a state. -/
inductive Reads : State → List Lexeme → Prop where
  /-- The current term is not complete. -/
  | incomplete (outer : List Opening) (o : Opening) {e : Expecting} {ls : List Lexeme}
      (h : ReadsTerm e ls) :
    Reads ⟨e, o.level, outer.map Opening.level⟩ (lexemesBefore outer ++ o.lexemes ++ ls)
  /-- The current term is complete. -/
  | complete (outer : List Opening) (o : Opening) (t : Term) :
    Reads ⟨.connective, o.level.add t.expr, outer.map Opening.level⟩
      (lexemesBefore outer ++ o.lexemes ++ t.lexemes)

/-- No lexeme leads to the state before the first one. -/
theorem Reads.start : Reads .start [] := .incomplete [] .start .term

/-- A lexeme that is read as a keyword spells it. -/
theorem Spelling.exists_of_keyword? {t : Lexeme} {k : Keyword} (h : State.keyword? t = some k) :
    ∃ w : Spelling k, w.lexeme = t := by
  unfold State.keyword? at h
  split at h
  · exact ⟨⟨_, Keyword.ofWord?_eq_some_iff.1 h⟩, rfl⟩
  · cases h

/-- One item more in a list of at least one. -/
theorem Constant.lexemesOf_append {items : List Constant} (h : items ≠ []) (c : Constant) :
    lexemesOf (items ++ [c]) = lexemesOf items ++ [.comma, c.lexeme] := by
  cases items with
  | nil => exact absurd rfl h
  | cons i items => simp [lexemesOf_cons]

section Step

variable (outer : List Opening) (o : Opening) {role : Role} {ls ls' : List Lexeme}

/-- A term that is not complete, with its lexemes in another form. -/
theorem Reads.incomplete_of_eq {e : Expecting} (h : ReadsTerm e ls) (hls : ls = ls') :
    Reads ⟨e, o.level, outer.map Opening.level⟩ (lexemesBefore outer ++ o.lexemes ++ ls') :=
  hls ▸ .incomplete outer o h

/-- A complete term, with its lexemes in another form. -/
theorem Reads.complete_of_eq (t : Term) (hls : t.lexemes = ls') :
    Reads ⟨.connective, o.level.add t.expr, outer.map Opening.level⟩
      (lexemesBefore outer ++ o.lexemes ++ ls') :=
  hls ▸ .complete outer o t

/-- A property that has been read leads on by what it is read for. -/
theorem Reads.useProperty (h : ReadsRole role ls) (e : Expecting) (p : Property) :
    Reads (State.useProperty ⟨e, o.level, outer.map Opening.level⟩ p.key role)
      (lexemesBefore outer ++ o.lexemes ++ (ls ++ p.lexemes)) := by
  cases h with
  | subject => exact .incomplete outer o (.comparison p)
  | presence w => exact .complete outer o (.presence w p)
  | container c w => exact .complete outer o (.inProperty c w p)

/-- The first lexeme of a property leads on. -/
theorem Reads.readProperty {e : Expecting} {t : Lexeme} {s : State} (h : ReadsRole role ls)
    (hs : State.readProperty ⟨e, o.level, outer.map Opening.level⟩ role t = .ok s) :
    Reads s (lexemesBefore outer ++ o.lexemes ++ (ls ++ [t])) := by
  unfold State.readProperty at hs
  split at hs
  · cases hs
    exact .incomplete outer o (.name h)
  · split at hs
    · rename_i key hfree
      cases hs
      exact .useProperty outer o h e (.bare key (Keyword.ofWord?_eq_none_iff.1
        (Option.isNone_iff_eq_none.1 hfree)))
    · cases hs
  · cases hs

/-- The first lexeme of a term leads on. -/
theorem Reads.readTerm {t : Lexeme} {s : State}
    (hs : State.readTerm ⟨.term, o.level, outer.map Opening.level⟩ t = .ok s) :
    Reads s (lexemesBefore outer ++ o.lexemes ++ [t]) := by
  unfold State.readTerm at hs
  split at hs
  · rename_i hnot
    obtain ⟨w, rfl⟩ := Spelling.exists_of_keyword? hnot
    cases hs
    -- The term after `NOT` is still to come, with one more negation before it.
    have := Reads.incomplete outer (o.negate w) .term
    simpa [Opening.level_negate, Opening.lexemes_negate] using this
  split at hs
  · rename_i hexist
    obtain ⟨w, rfl⟩ := Spelling.exists_of_keyword? hexist
    cases hs
    exact .incomplete outer o (.property (.presence w))
  split at hs
  · rename_i hopen
    subst hopen
    cases hs
    -- A parenthesis puts the current opening on the stack and begins a new one.
    have : Reads ⟨.term, .start, (o :: outer).map Opening.level⟩ _ :=
      .incomplete (o :: outer) .start .term
    simpa [Opening.lexemes_start, lexemesBefore] using this
  split at hs
  · rename_i l hlit
    obtain ⟨c, rfl, rfl⟩ := Constant.exists_of_literal? hlit
    cases hs
    exact .incomplete outer o (.inAfterLiteral c)
  · exact .readProperty outer o .subject hs

/-- A lexeme after a complete term leads on. -/
theorem Reads.readConnective {t : Term} {x : Lexeme} {s : State}
    (hs : State.readConnective ⟨.connective, o.level.add t.expr, outer.map Opening.level⟩ x = .ok s) :
    Reads s (lexemesBefore outer ++ o.lexemes ++ t.lexemes ++ [x]) := by
  unfold State.readConnective at hs
  split at hs
  · rename_i hand
    obtain ⟨w, rfl⟩ := Spelling.exists_of_keyword? hand
    cases hs
    have := Reads.incomplete outer (o.conjoin t w) .term
    simpa [Opening.level_conjoin, Opening.lexemes_conjoin, State.expect] using this
  split at hs
  · rename_i hor
    obtain ⟨w, rfl⟩ := Spelling.exists_of_keyword? hor
    cases hs
    have := Reads.incomplete outer (o.alternate t w) .term
    simpa [Opening.level_alternate, Opening.lexemes_alternate] using this
  -- Only a closing parenthesis is left; it completes the group that the innermost opening waits
  -- for.
  cases outer with
  | nil => cases hs
  | cons o' outer =>
    rw [List.map_cons] at hs
    split at hs
    · cases hs
    · rename_i heq _ _
      obtain ⟨rfl, rfl⟩ := List.cons.inj heq
      cases hs
      have := Reads.complete outer o' (.group (o.close t))
      simpa [Term.expr, Term.lexemes, Opening.expr_close, Opening.lexemes_close, lexemesBefore]
        using this
    · cases hs

end Step

/-- One step keeps the invariant. -/
theorem Reads.step {s s' : State} {ls : List Lexeme} {t : Lexeme} (h : Reads s ls)
    (hs : s.step t = .ok s') : Reads s' (ls ++ [t]) := by
  -- What is expected says how much of the term has been read; each lexeme that a step admits adds
  -- to that, completes the term, or follows it.
  cases h with
  | complete outer o u => exact .readConnective outer o hs
  | incomplete outer o h =>
    rw [List.append_assoc]
    unfold State.step at hs
    cases h with
    | term => exact .readTerm outer o hs
    | property h => exact .readProperty outer o h hs
    | name h =>
      dsimp only at hs
      split at hs
      · rename_i key
        cases hs
        exact .incomplete_of_eq outer o (.closeProperty h key) (by simp)
      · cases hs
    | @closeProperty role ls h key =>
      dsimp only at hs
      split at hs
      · rename_i heq
        cases heq
        cases hs
        rw [show ls ++ [.openBracket, .word key] ++ [.closeBracket]
          = ls ++ (Property.bracketed key).lexemes by simp [Property.lexemes]]
        exact .useProperty outer o h _ (.bracketed key)
      · cases hs
    | inAfterLiteral c =>
      dsimp only at hs
      split at hs
      · rename_i hin
        obtain ⟨w, rfl⟩ := Spelling.exists_of_keyword? hin
        cases hs
        exact .incomplete outer o (.property (.container c w))
      · cases hs
    | comparison p =>
      dsimp only at hs
      split at hs
      · rename_i hin
        obtain ⟨w, rfl⟩ := Spelling.exists_of_keyword? hin
        cases hs
        exact .incomplete outer o (.openList p w)
      · split at hs
        · cases hs
          exact .incomplete outer o (.rightSide p _)
        · cases hs
    | rightSide p op =>
      dsimp only at hs
      split at hs
      · rename_i hlit
        obtain ⟨c, rfl, rfl⟩ := Constant.exists_of_literal? hlit
        cases hs
        exact .complete_of_eq outer o (.comparison p op c) (by simp [Term.lexemes])
      · cases hs
    | openList p w =>
      dsimp only at hs
      split at hs
      · rename_i heq
        cases heq
        cases hs
        exact .incomplete_of_eq outer o (.firstItem p w) (by simp)
      · cases hs
    | firstItem p w =>
      dsimp only at hs
      split at hs
      · rename_i heq
        cases heq
        cases hs
        exact .complete_of_eq outer o (.inList p w []) (by simp [Term.lexemes, Constant.lexemesOf])
      · split at hs
        · rename_i hlit
          obtain ⟨c, rfl, rfl⟩ := Constant.exists_of_literal? hlit
          cases hs
          exact .incomplete_of_eq outer o (.listEnd p w [c] (by simp))
            (by simp [Constant.lexemesOf])
        · cases hs
    | item p w items hne =>
      dsimp only at hs
      split at hs
      · rename_i hlit
        obtain ⟨c, rfl, rfl⟩ := Constant.exists_of_literal? hlit
        cases hs
        -- The automaton keeps the items last one first.
        have hitems : ((items ++ [c]).map Constant.literal).reverse
            = c.literal :: (items.map Constant.literal).reverse := by simp
        have := ReadsTerm.listEnd p w (items ++ [c]) (by simp)
        rw [hitems] at this
        exact .incomplete_of_eq outer o this (by simp [Constant.lexemesOf_append hne])
      · cases hs
    | listEnd p w items hne =>
      dsimp only at hs
      split at hs
      · rename_i heq
        cases heq
        cases hs
        exact .incomplete_of_eq outer o (.item p w items hne) (by simp)
      · split at hs
        · rename_i heq
          cases heq
          cases hs
          rw [List.reverse_reverse]
          exact .complete_of_eq outer o (.inList p w items) (by simp [Term.lexemes])
        · cases hs

/-- A run keeps the invariant. -/
theorem Reads.steps {s s' : State} {ls ts : List Lexeme} (h : Reads s ls)
    (hs : s.steps ts = .ok s') : Reads s' (ls ++ ts) := by
  induction ts generalizing s ls with
  | nil => cases hs; simpa using h
  | cons t ts ih =>
    rw [State.steps] at hs
    split at hs
    · cases hs
    · rename_i s'' hstep
      have := ih (h.step hstep) hs
      rwa [List.append_assoc] at this

/-- The lexemes that lead to an accepting state are those of a derivation of its expression. -/
theorem Reads.exists_derivation {s : State} {ls : List Lexeme} {e : Expr} (h : Reads s ls)
    (hf : s.finish = .ok e) : ∃ d : Disjunction, d.lexemes = ls ∧ d.expr = e := by
  cases h with
  -- Where a term is not complete, or a parenthesis is open, the state does not accept.
  | incomplete outer o h => cases h <;> cases hf
  | complete outer o t =>
    cases outer with
    | nil =>
      cases hf
      exact ⟨o.close t, by simp [Opening.lexemes_close, lexemesBefore], o.expr_close t⟩
    | cons o' outer => cases hf

end Grammar

end PluginCatalog.Constraint
