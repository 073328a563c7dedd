import PluginCatalog.Proofs.Constraint.Recognition
import PluginCatalog.Proofs.Constraint.Scanning

/-!
# Constraints have one derivation

Lexemes are those of at most one derivation (`Disjunction.ext_lexemes`). A term shows its production
by its first lexeme (`Term.lead`) and its own end, so it can be told from whatever follows it; a
chain ends where its connective does not follow. With the automaton, which accepts exactly the
derivations, this determines what a text is read as (`parse_by_derivation`).
-/

namespace PluginCatalog.Constraint

namespace Grammar

/-! ## Properties and literals -/

/-- Spellings of different keywords differ. -/
theorem Spelling.eq_of_lexeme_eq {k k' : Keyword} {w : Spelling k} {w' : Spelling k'}
    (h : w.lexeme = w'.lexeme) : k = k' := by
  have := congrArg State.keyword? h
  simpa using this

/-- Spellings of one keyword with the same lexeme are the same. -/
theorem Spelling.ext_lexeme {k : Keyword} {w w' : Spelling k} (h : w.lexeme = w'.lexeme) :
    w = w' := by
  simp only [lexeme, Lexeme.word.injEq] at h
  exact ext_word h

/-- A property can be told from what follows it. -/
theorem Property.eq_of_append_eq {p p' : Property} {r r' : List Lexeme}
    (h : p.lexemes ++ r = p'.lexemes ++ r') : p = p' ∧ r = r' := by
  cases p <;> cases p' <;> simp [lexemes] at h <;> simp [h]

/-- Literals with the same lexeme are the same. -/
theorem Constant.ext_lexeme {c c' : Constant} (h : c.lexeme = c'.lexeme) : c = c' := by
  cases c with
  | string s => cases c' <;> simp_all [lexeme, Spelling.lexeme]
  | number x => cases c' <;> simp_all [lexeme, Spelling.lexeme]
  | true w =>
    cases c' with
    | true w' => rw [Spelling.ext_lexeme h]
    | false w' => cases Spelling.eq_of_lexeme_eq h
    | _ => simp [lexeme, Spelling.lexeme] at h
  | false w =>
    cases c' with
    | true w' => cases Spelling.eq_of_lexeme_eq h
    | false w' => rw [Spelling.ext_lexeme h]
    | _ => simp [lexeme, Spelling.lexeme] at h

/-- Further items of a list can be told from its closing bracket on. -/
theorem Constant.eq_of_flatMap_eq {items items' : List Constant} {r r' : List Lexeme}
    (h : (items.flatMap fun i => [Lexeme.comma, i.lexeme]) ++ .closeBracket :: r
      = (items'.flatMap fun i => [Lexeme.comma, i.lexeme]) ++ .closeBracket :: r') :
    items = items' ∧ r = r' := by
  induction items generalizing items' with
  | nil =>
    cases items' with
    | nil => simpa using h
    | cons i' items' => simp at h
  | cons i items ih =>
    cases items' with
    | nil => simp at h
    | cons i' items' =>
      simp only [List.flatMap_cons, List.cons_append, List.nil_append, List.cons.injEq,
        true_and] at h
      obtain ⟨rfl, hr⟩ := ih h.2
      exact ⟨by rw [ext_lexeme h.1], hr⟩

/-- The items of a list can be told from its closing bracket on. -/
theorem Constant.eq_of_lexemesOf_eq {items items' : List Constant} {r r' : List Lexeme}
    (h : lexemesOf items ++ .closeBracket :: r = lexemesOf items' ++ .closeBracket :: r') :
    items = items' ∧ r = r' := by
  have hne (c : Constant) : c.lexeme ≠ .closeBracket := by cases c <;> simp [lexeme, Spelling.lexeme]
  -- A list that is empty and one that is not differ in the first lexeme, which closes the one.
  cases items with
  | nil =>
    cases items' with
    | nil => simpa [lexemesOf] using h
    | cons i' items' =>
      rw [lexemesOf_cons] at h
      exact absurd (List.cons.inj h).1.symm (hne i')
  | cons i items =>
    cases items' with
    | nil =>
      rw [lexemesOf_cons] at h
      exact absurd (List.cons.inj h).1 (hne i)
    | cons i' items' =>
      rw [lexemesOf_cons, lexemesOf_cons] at h
      obtain ⟨hi, hrest⟩ := List.cons.inj h
      obtain ⟨rfl, hr⟩ := eq_of_flatMap_eq hrest
      exact ⟨by rw [ext_lexeme hi], hr⟩

/-! ## Terms and chains -/

/-- What a term begins with. -/
inductive Lead where
  | negation
  | group
  | presence
  | property
  | literal
  deriving DecidableEq

/-- What a term that begins with a lexeme begins with. -/
def Lead.ofLexeme (x : Lexeme) : Lead :=
  if State.keyword? x = some .not then negation
  else if State.keyword? x = some .exist then presence
  else if x = .openParen then group
  else if (State.literal? x).isSome then literal
  else property

/-- What a term begins with, by its production. -/
def Term.lead : Term → Lead
  | .negation _ _ => .negation
  | .group _ => .group
  | .presence _ _ => .presence
  | .comparison _ _ _ => .property
  | .inList _ _ _ => .property
  | .inProperty _ _ _ => .literal

/-- The first lexeme of a property begins no other term. -/
theorem Property.lead_lexemes (p : Property) :
    ∃ x rest, p.lexemes = x :: rest ∧ Lead.ofLexeme x = .property := by
  cases p with
  | bracketed key => exact ⟨_, _, rfl, rfl⟩
  | bare key free =>
    exact ⟨_, _, rfl, by simp [Lead.ofLexeme, State.keyword?, State.literal?,
      Keyword.ofWord?_eq_none_iff.2 free]⟩

/-- The first lexeme of a literal begins no other term. -/
theorem Constant.lead_lexeme (c : Constant) : Lead.ofLexeme c.lexeme = .literal := by
  have hlit := c.literal?_lexeme
  cases c with
  | string s => rfl
  | number x => rfl
  | true w | false w =>
    have hparen : w.lexeme ≠ .openParen := by simp [Spelling.lexeme]
    simp only [lexeme] at hlit ⊢
    simp [Lead.ofLexeme, hlit, hparen]

/-- A term shows its production by its first lexeme. -/
theorem Term.lead_lexemes (t : Term) :
    ∃ x rest, t.lexemes = x :: rest ∧ Lead.ofLexeme x = t.lead := by
  cases t with
  | negation w t => exact ⟨_, _, rfl, by simp [Lead.ofLexeme, lead]⟩
  | group d => exact ⟨_, _, rfl, rfl⟩
  | presence w p => exact ⟨_, _, rfl, by simp [Lead.ofLexeme, lead]⟩
  | comparison p op c =>
    obtain ⟨x, rest, hp, hx⟩ := p.lead_lexemes
    exact ⟨x, _, by rw [lexemes, hp, List.cons_append], hx⟩
  | inList p w items =>
    obtain ⟨x, rest, hp, hx⟩ := p.lead_lexemes
    exact ⟨x, _, by rw [lexemes, hp, List.cons_append], hx⟩
  | inProperty c w p => exact ⟨_, _, rfl, c.lead_lexeme⟩

/-- Terms with the same beginning have the same lead. -/
theorem Term.lead_eq {t t' : Term} {r r' : List Lexeme}
    (h : t.lexemes ++ r = t'.lexemes ++ r') : t.lead = t'.lead := by
  obtain ⟨x, rest, ht, hx⟩ := t.lead_lexemes
  obtain ⟨x', rest', ht', hx'⟩ := t'.lead_lexemes
  rw [ht, ht', List.cons_append, List.cons_append] at h
  rw [← hx, ← hx', (List.cons.inj h).1]

/-- The keyword that some lexemes begin with. -/
def leading? (r : List Lexeme) : Option Keyword := r.head?.bind State.keyword?

mutual

/-- A term can be told from what follows it. -/
theorem Term.eq_of_append_eq (t t' : Term) (r r' : List Lexeme)
    (h : t.lexemes ++ r = t'.lexemes ++ r') : t = t' ∧ r = r' := by
  -- Both terms have one production, or one of the two that begin with a property.
  have hlead := Term.lead_eq h
  match t with
  | .negation w t =>
    cases t' <;> cases hlead
    rename_i w' t'
    obtain ⟨hw, ht⟩ := List.cons.inj h
    obtain ⟨rfl, hr⟩ := t.eq_of_append_eq t' r r' ht
    exact ⟨by rw [Spelling.ext_lexeme hw], hr⟩
  | .group d =>
    cases t' <;> cases hlead
    rename_i d'
    simp only [Term.lexemes, List.cons_append, List.append_assoc, List.nil_append,
      List.cons.injEq, true_and] at h
    obtain ⟨rfl, hr⟩ := d.eq_of_append_eq d' _ _ h (by simp [leading?, State.keyword?])
      (by simp [leading?, State.keyword?]) (by simp [leading?, State.keyword?])
      (by simp [leading?, State.keyword?])
    exact ⟨rfl, (List.cons.inj hr).2⟩
  | .presence w p =>
    cases t' <;> cases hlead
    rename_i w' p'
    obtain ⟨hw, hp⟩ := List.cons.inj h
    obtain ⟨rfl, hr⟩ := Property.eq_of_append_eq hp
    exact ⟨by rw [Spelling.ext_lexeme hw], hr⟩
  | .comparison p op c =>
    cases t' <;> cases hlead
    · rename_i p' op' c'
      rw [Term.lexemes, Term.lexemes, List.append_assoc, List.append_assoc] at h
      obtain ⟨rfl, hrest⟩ := Property.eq_of_append_eq h
      simp only [List.cons_append, List.nil_append, List.cons.injEq, Lexeme.operator.injEq] at hrest
      obtain ⟨rfl, hc, hr⟩ := hrest
      exact ⟨by rw [Constant.ext_lexeme hc], hr⟩
    · rename_i p' w' items'
      rw [Term.lexemes, Term.lexemes, List.append_assoc, List.append_assoc] at h
      obtain ⟨rfl, hrest⟩ := Property.eq_of_append_eq h
      simp [Spelling.lexeme] at hrest
  | .inList p w items =>
    cases t' <;> cases hlead
    · rename_i p' op' c'
      rw [Term.lexemes, Term.lexemes, List.append_assoc, List.append_assoc] at h
      obtain ⟨rfl, hrest⟩ := Property.eq_of_append_eq h
      simp [Spelling.lexeme] at hrest
    · rename_i p' w' items'
      rw [Term.lexemes, Term.lexemes, List.append_assoc, List.append_assoc] at h
      obtain ⟨rfl, hrest⟩ := Property.eq_of_append_eq h
      simp only [List.cons_append, List.append_assoc, List.nil_append, List.cons.injEq,
        true_and] at hrest
      obtain ⟨hw, hitems⟩ := hrest
      obtain ⟨rfl, hr⟩ := Constant.eq_of_lexemesOf_eq hitems
      exact ⟨by rw [Spelling.ext_lexeme hw], hr⟩
  | .inProperty c w p =>
    cases t' <;> cases hlead
    rename_i c' w' p'
    simp only [Term.lexemes, List.cons_append, List.cons.injEq] at h
    obtain ⟨hc, hw, hp⟩ := h
    obtain ⟨rfl, hr⟩ := Property.eq_of_append_eq hp
    exact ⟨by rw [Constant.ext_lexeme hc, Spelling.ext_lexeme hw], hr⟩

/-- A chain of `AND` can be told from what follows it, unless that begins with `AND`. -/
theorem Conjunction.eq_of_append_eq (c c' : Conjunction) (r r' : List Lexeme)
    (h : c.lexemes ++ r = c'.lexemes ++ r') (hr : leading? r ≠ some .and)
    (hr' : leading? r' ≠ some .and) : c = c' ∧ r = r' := by
  match c with
  | .last t =>
    cases c' with
    | last t' =>
      obtain ⟨rfl, hrest⟩ := t.eq_of_append_eq t' r r' h
      exact ⟨rfl, hrest⟩
    | more t' w' c' =>
      rw [Conjunction.lexemes, Conjunction.lexemes, List.append_assoc] at h
      -- The second chain goes on where the first has ended, so `AND` would follow the first.
      obtain ⟨-, rfl⟩ := t.eq_of_append_eq t' _ _ h
      exact absurd (by simp [leading?]) hr
  | .more t w c =>
    cases c' with
    | last t' =>
      rw [Conjunction.lexemes, Conjunction.lexemes, List.append_assoc] at h
      -- Here `AND` would follow the second.
      obtain ⟨-, rfl⟩ := t.eq_of_append_eq t' _ _ h
      exact absurd (by simp [leading?]) hr'
    | more t' w' c' =>
      rw [Conjunction.lexemes, Conjunction.lexemes, List.append_assoc, List.append_assoc] at h
      obtain ⟨rfl, hrest⟩ := t.eq_of_append_eq t' _ _ h
      obtain ⟨hw, hc⟩ := List.cons.inj hrest
      obtain ⟨rfl, hrr⟩ := c.eq_of_append_eq c' r r' hc hr hr'
      exact ⟨by rw [Spelling.ext_lexeme hw], hrr⟩

/-- A chain of `OR` can be told from what follows it, unless that begins with `AND` or `OR`. -/
theorem Disjunction.eq_of_append_eq (d d' : Disjunction) (r r' : List Lexeme)
    (h : d.lexemes ++ r = d'.lexemes ++ r') (hand : leading? r ≠ some .and)
    (hor : leading? r ≠ some .or) (hand' : leading? r' ≠ some .and)
    (hor' : leading? r' ≠ some .or) : d = d' ∧ r = r' := by
  -- What follows an operand of `OR` begins with `OR`, hence not with `AND`.
  have hne (w : Spelling .or) (s : List Lexeme) : leading? (w.lexeme :: s) ≠ some .and := by
    simp [leading?]
  match d with
  | .last c =>
    cases d' with
    | last c' =>
      obtain ⟨rfl, hrest⟩ := c.eq_of_append_eq c' r r' h hand hand'
      exact ⟨rfl, hrest⟩
    | more c' w' d' =>
      rw [Disjunction.lexemes, Disjunction.lexemes, List.append_assoc] at h
      obtain ⟨-, rfl⟩ := c.eq_of_append_eq c' _ _ h hand (hne _ _)
      exact absurd (by simp [leading?]) hor
  | .more c w d =>
    cases d' with
    | last c' =>
      rw [Disjunction.lexemes, Disjunction.lexemes, List.append_assoc] at h
      obtain ⟨-, rfl⟩ := c.eq_of_append_eq c' _ _ h (hne _ _) hand'
      exact absurd (by simp [leading?]) hor'
    | more c' w' d' =>
      rw [Disjunction.lexemes, Disjunction.lexemes, List.append_assoc, List.append_assoc] at h
      obtain ⟨rfl, hrest⟩ := c.eq_of_append_eq c' _ _ h (hne _ _) (hne _ _)
      obtain ⟨hw, hd⟩ := List.cons.inj hrest
      obtain ⟨rfl, hrr⟩ := d.eq_of_append_eq d' r r' hd hand hor hand' hor'
      exact ⟨by rw [Spelling.ext_lexeme hw], hrr⟩

end

/-- Derivations with the same lexemes are the same. -/
theorem Disjunction.ext_lexemes {d d' : Disjunction} (h : d.lexemes = d'.lexemes) : d = d' := by
  have hnone (k : Keyword) : leading? [] ≠ some k := by simp [leading?]
  exact (d.eq_of_append_eq d' [] [] (by simpa using h) (hnone _) (hnone _) (hnone _) (hnone _)).1

/-- Every derivation has a lexeme. -/
theorem Disjunction.lexemes_ne_nil (d : Disjunction) : d.lexemes ≠ [] := by
  intro hd
  obtain ⟨s, hs, hf⟩ := d.accepted
  rw [hd] at hs
  cases hs
  cases hf

end Grammar

open Grammar (Disjunction)

/-! ## What a text is read as -/

/-- A constraint is its text with the expression that the text is read as. -/
theorem parse_eq_ok_iff {text : String} {c : Constraint} :
    parse text = .ok c ↔ parseExpr text = .ok c.root ∧ c.source = text := by
  obtain ⟨source, root⟩ := c
  rw [parse]
  cases parseExpr text <;> simp [Except.map, and_comm, eq_comm]

/-- A text that has tokens is read as the expression of a derivation with their lexemes. -/
theorem parseExpr_eq_ok_iff {text : String} {tokens : List Token}
    (h : Token.scan text.toList = .ok tokens) {e : Expr} :
    parseExpr text = .ok e ↔
      ∃ d : Disjunction, d.lexemes = tokens.map (·.lexeme) ∧ d.expr = e := by
  rw [parseExpr, h]
  cases tokens with
  | nil =>
    constructor
    · intro hp
      cases hp
    · rintro ⟨d, hd, -⟩
      exact absurd hd d.lexemes_ne_nil
  | cons t ts =>
    dsimp only
    rw [State.run_eq_ok_iff]
    constructor
    · rintro ⟨s, hs, hf⟩
      exact (Grammar.Reads.start.steps hs).exists_derivation hf
    · rintro ⟨d, hd, rfl⟩
      rw [← hd]
      exact d.accepted

/-- A text is read as the expression of a derivation with its lexemes. -/
theorem parseExpr_eq_ok_iff_scans {text : String} {e : Expr} :
    parseExpr text = .ok e ↔ ∃ d : Disjunction, Scans text.toList d.lexemes ∧ d.expr = e := by
  cases hscan : Token.scan text.toList with
  | error fault =>
    constructor
    · intro h
      rw [parseExpr, hscan] at h
      cases h
    · rintro ⟨d, ⟨tokens, htokens, -⟩, -⟩
      rw [hscan] at htokens
      cases htokens
  | ok tokens =>
    rw [parseExpr_eq_ok_iff hscan]
    have hscans : Scans text.toList (tokens.map (·.lexeme)) := ⟨tokens, hscan, rfl⟩
    refine exists_congr fun d => and_congr_left fun _ => ⟨?_, fun hd => hd.unique hscans⟩
    intro hd
    rwa [hd]

/-- A text that has tokens is accepted exactly if their lexemes have a derivation. There is at most
one, and the text is read as its expression. -/
theorem parse_by_derivation (text : String) (tokens : List Token)
    (h : Token.scan text.toList = .ok tokens) :
    ((∃ c, parse text = .ok c) ↔ ∃ d : Disjunction, d.lexemes = tokens.map (·.lexeme)) ∧
      (∀ d d' : Disjunction, d.lexemes = tokens.map (·.lexeme) →
        d'.lexemes = tokens.map (·.lexeme) → d = d') ∧
      ∀ d : Disjunction, d.lexemes = tokens.map (·.lexeme) → parse text = .ok ⟨text, d.expr⟩ := by
  have hparse (d : Disjunction) (hd : d.lexemes = tokens.map (·.lexeme)) :
      parse text = .ok ⟨text, d.expr⟩ :=
    parse_eq_ok_iff.2 ⟨(parseExpr_eq_ok_iff h).2 ⟨d, hd, rfl⟩, rfl⟩
  refine ⟨⟨?_, ?_⟩, ?_, hparse⟩
  · rintro ⟨c, hc⟩
    obtain ⟨d, hd, -⟩ := (parseExpr_eq_ok_iff h).1 (parse_eq_ok_iff.1 hc).1
    exact ⟨d, hd⟩
  · rintro ⟨d, hd⟩
    exact ⟨_, hparse d hd⟩
  · intro d d' hd hd'
    exact Disjunction.ext_lexemes (hd.trans hd'.symm)

/-- A keyword in mixed case, a keyword as a key, an empty list and a chain of two operands. -/
theorem parse_by_derivation_mixed_case :
    parse "Not a IN [] OR [or] == 'x'" = .ok ⟨"Not a IN [] OR [or] == 'x'",
      .logical .or [.logical .not [.membership (.property "a") (.list [])],
        .comparison .eq (.property "or") (.literal (.string "x"))]⟩ := by
  have hfree : ∀ k : Keyword, Text.sameWord "a" k.text = false := by
    intro k
    cases k <;> decide
  let d : Disjunction :=
    .more (.last (.negation ⟨"Not", by decide⟩ (.inList (.bare "a" hfree) ⟨"IN", by decide⟩ [])))
      ⟨"OR", by decide⟩
      (.last (.last (.comparison (.bracketed "or") .eq (.string "x"))))
  have hscan : Token.scan "Not a IN [] OR [or] == 'x'".toList = .ok
      [⟨.word "Not", ['N', 'o', 't'], 0⟩, ⟨.word "a", ['a'], 4⟩, ⟨.word "IN", ['I', 'N'], 6⟩,
       ⟨.openBracket, ['['], 9⟩, ⟨.closeBracket, [']'], 10⟩, ⟨.word "OR", ['O', 'R'], 12⟩,
       ⟨.openBracket, ['['], 15⟩, ⟨.word "or", ['o', 'r'], 16⟩, ⟨.closeBracket, [']'], 18⟩,
       ⟨.operator .eq, ['=', '='], 20⟩, ⟨.string "x", ['\'', 'x', '\''], 23⟩] := by decide +kernel
  exact (parse_by_derivation _ _ hscan).2.2 d rfl

end PluginCatalog.Constraint
