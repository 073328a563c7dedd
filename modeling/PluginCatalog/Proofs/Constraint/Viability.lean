import PluginCatalog.Proofs.Constraint.Verdict

/-!
# Where a constraint goes wrong

An error names the first token that no constraint can have after the tokens before it. Both halves rest
on the automaton. Every state of it leads to acceptance by some lexemes (`State.exists_completion`), so
lexemes that it can read are the beginning of a constraint; and it is deterministic, so lexemes that it
cannot read begin none. Together a list of lexemes is the beginning of a constraint exactly if the
automaton can read it (`viable_iff_steps`), and the fault it finds stands at the end of the longest such
beginning.
-/

namespace PluginCatalog.Constraint

/-! ## Texts of lexemes -/

/-- A lexeme that some text has as its only one. -/
def Lexeme.HasText (l : Lexeme) : Prop := ∃ s, Scans s [l]

/-- Lexemes that have texts one by one have a text together: those texts with blanks between them. -/
theorem Scans.exists_of_hasText {ls : List Lexeme} (h : ∀ l ∈ ls, l.HasText) : ∃ s, Scans s ls := by
  induction ls with
  | nil => exact ⟨[], .nil⟩
  | cons l ls ih =>
    obtain ⟨piece, hpiece⟩ := h l List.mem_cons_self
    obtain ⟨s, hs⟩ := ih fun l' hl' => h l' (List.mem_cons_of_mem l hl')
    exact ⟨piece ++ ' ' :: s, hpiece.append_blank hs⟩

/-- The first of some lexemes that can be read can be read. -/
theorem State.exists_steps_of_append {s s' : State} {ls ms : List Lexeme}
    (h : s.steps (ls ++ ms) = .ok s') : ∃ s₁, s.steps ls = .ok s₁ := by
  induction ls generalizing s with
  | nil => exact ⟨s, rfl⟩
  | cons l ls ih =>
    cases hs : s.step l with
    | error fault =>
      rw [List.cons_append, steps, hs] at h
      cases h
    | ok s₂ =>
      rw [List.cons_append, steps_cons hs] at h
      rw [steps_cons hs]
      exact ih h

/-! ## Completions -/

/-- Lexemes that complete a term after the property that is read for a role. -/
def Role.completion : Role → List Lexeme
  | .subject => [.operator .eq, .word "true"]
  | .presence | .container _ => []

/-- Lexemes that complete a term, by what is expected next. -/
def Expecting.completion : Expecting → List Lexeme
  | .term => [.word "EXIST", .word "a"]
  | .property role => .word "a" :: role.completion
  | .name role => .word "a" :: .closeBracket :: role.completion
  | .closeProperty role _ => .closeBracket :: role.completion
  | .inAfterLiteral _ => [.word "IN", .word "a"]
  | .comparison _ => [.operator .eq, .word "true"]
  | .rightSide _ _ => [.word "true"]
  | .openList _ => [.openBracket, .closeBracket]
  | .firstItem _ | .listEnd _ _ => [.closeBracket]
  | .item _ _ => [.word "true", .closeBracket]
  | .connective => []

/-- The lexemes of a completion have texts. -/
theorem Expecting.hasText_completion (e : Expecting) : ∀ l ∈ e.completion, l.HasText := by
  have hword {w : String} (hw : isWord w.toList = true) : Lexeme.HasText (.word w) :=
    ⟨w.toList, by simpa using Scans.word hw⟩
  have htrue : Lexeme.HasText (.word "true") := hword (by decide)
  have hkey : Lexeme.HasText (.word "a") := hword (by decide)
  have hexist : Lexeme.HasText (.word "EXIST") := hword (by decide)
  have hin : Lexeme.HasText (.word "IN") := hword (by decide)
  have heq : Lexeme.HasText (.operator .eq) :=
    ⟨['=', '='], (Scans.cons_iff (by decide) rfl).2 ⟨[], .nil, rfl⟩⟩
  have hopen : Lexeme.HasText .openBracket :=
    ⟨['['], (Scans.cons_iff (by decide) rfl).2 ⟨[], .nil, rfl⟩⟩
  have hclose : Lexeme.HasText .closeBracket :=
    ⟨[']'], (Scans.cons_iff (by decide) rfl).2 ⟨[], .nil, rfl⟩⟩
  have hrole (role : Role) : ∀ l ∈ role.completion, l.HasText := by
    cases role <;> simp [Role.completion, heq, htrue]
  cases e with
  | property role | name role | closeProperty role => simpa [completion, hkey, hclose] using hrole role
  | _ => simp [completion, htrue, hkey, hexist, hin, heq, hopen, hclose]

namespace State

/-- A property that has been read for a role leads on to the end of its term. -/
theorem exists_steps_role (role : Role) (s : State) (key : String) :
    ∃ level, (s.useProperty key role).steps role.completion = .ok ⟨.connective, level, s.outer⟩ := by
  cases role <;> exact ⟨_, rfl⟩

/-- What is expected next leads on to the end of the term. -/
theorem exists_steps_completion (s : State) :
    ∃ level, s.steps s.expecting.completion = .ok ⟨.connective, level, s.outer⟩ := by
  obtain ⟨expecting, level, outer⟩ := s
  cases expecting with
  | term => exact ⟨_, rfl⟩
  | property role => exact exists_steps_role role _ _
  | name role => exact exists_steps_role role _ _
  | closeProperty role key => exact exists_steps_role role _ _
  | inAfterLiteral l => exact ⟨_, rfl⟩
  | comparison key => exact ⟨_, rfl⟩
  | rightSide key op => exact ⟨_, rfl⟩
  | openList key => exact ⟨_, rfl⟩
  | firstItem key => exact ⟨_, rfl⟩
  | item key items => exact ⟨_, rfl⟩
  | listEnd key items => exact ⟨_, rfl⟩
  | connective => exact ⟨_, rfl⟩

/-- Closing parentheses lead from a complete term out of all expressions that are open. -/
theorem exists_steps_close (level : Level) (outer : List Level) :
    ∃ s e, steps ⟨.connective, level, outer⟩ (List.replicate outer.length .closeParen) = .ok s ∧
      s.finish = .ok e := by
  induction outer generalizing level with
  | nil => exact ⟨_, _, rfl, rfl⟩
  | cons around outer ih =>
    have hclose : step ⟨.connective, level, around :: outer⟩ .closeParen
        = .ok ⟨.connective, around.add level.expr, outer⟩ := rfl
    rw [List.length_cons, List.replicate_succ, steps_cons hclose]
    exact ih _

/-- Every state leads on to acceptance, by lexemes that a text can have. -/
theorem exists_completion (s : State) :
    ∃ ls, (∀ l ∈ ls, Lexeme.HasText l) ∧
      ∃ s' e, s.steps ls = .ok s' ∧ s'.finish = .ok e := by
  obtain ⟨level, hterm⟩ := s.exists_steps_completion
  obtain ⟨s', e, hclose, hfinish⟩ := exists_steps_close level s.outer
  refine ⟨s.expecting.completion ++ List.replicate s.outer.length .closeParen, ?_, s', e,
    by rw [steps_append hterm, hclose], hfinish⟩
  intro l hl
  rcases List.mem_append.1 hl with hl | hl
  · exact s.expecting.hasText_completion l hl
  · rw [List.eq_of_mem_replicate hl]
    exact ⟨[')'], (Scans.cons_iff (by decide) rfl).2 ⟨[], .nil, rfl⟩⟩

end State

/-! ## Beginnings of constraints -/

/-- Whether some lexemes are the first ones of a constraint. -/
def Viable (ls : List Lexeme) : Prop :=
  ∃ text c ms, parse text = .ok c ∧ Scans text.toList (ls ++ ms)

/-- A text is a constraint if the automaton reads its lexemes and accepts. -/
theorem exists_parse_iff {text : String} {ls : List Lexeme} (h : Scans text.toList ls) :
    (∃ c, parse text = .ok c) ↔ ∃ s e, State.start.steps ls = .ok s ∧ s.finish = .ok e := by
  obtain ⟨tokens, hscan, rfl⟩ := h
  constructor
  · rintro ⟨c, hc⟩
    obtain ⟨d, hd, -⟩ := (parseExpr_eq_ok_iff hscan).1 (parse_eq_ok_iff.1 hc).1
    obtain ⟨s, hsteps, hfinish⟩ := d.accepted
    exact ⟨s, _, hd ▸ hsteps, hfinish⟩
  · rintro ⟨s, e, hsteps, hfinish⟩
    have hd := (Grammar.Reads.start.steps hsteps).exists_derivation hfinish
    exact ⟨⟨text, e⟩, parse_eq_ok_iff.2 ⟨(parseExpr_eq_ok_iff hscan).2 hd, rfl⟩⟩

/-- Lexemes that a text has are the beginning of a constraint exactly if the automaton can read them. -/
theorem viable_iff_steps {s : List Char} {ls : List Lexeme} (h : Scans s ls) :
    Viable ls ↔ ∃ state, State.start.steps ls = .ok state := by
  constructor
  · rintro ⟨text, c, ms, hparse, hscans⟩
    obtain ⟨state, e, hsteps, -⟩ := (exists_parse_iff hscans).1 ⟨c, hparse⟩
    exact State.exists_steps_of_append hsteps
  · rintro ⟨state, hsteps⟩
    obtain ⟨ms, htexts, s', e, hms, hfinish⟩ := state.exists_completion
    obtain ⟨r, hr⟩ := Scans.exists_of_hasText htexts
    have hscans : Scans (String.ofList (s ++ ' ' :: r)).toList (ls ++ ms) := by
      rw [String.toList_ofList]
      exact h.append_blank hr
    obtain ⟨c, hc⟩ := (exists_parse_iff hscans).2
      ⟨s', e, by rw [State.steps_append hsteps, hms], hfinish⟩
    exact ⟨_, c, ms, hc, hscans⟩

/-! ## The place of an error -/

/-- The first lexemes of a text are those of its part before the token that follows them. -/
theorem scans_take {text : String} {tokens : List Token} (h : Token.scan text.toList = .ok tokens)
    {k : Nat} (hk : k ≤ tokens.length) :
    ∃ before after, text.toList = before ++ after ∧
      Text.byteLength before = Token.place (Text.byteLength text.toList) tokens k ∧
      Scans before ((tokens.map (·.lexeme)).take k) := by
  obtain ⟨before, after, hsplit, hplace, hscan⟩ := Token.exists_cut h hk
  rw [Nat.zero_add, Nat.zero_add] at hplace
  exact ⟨before, after, hsplit, hplace.symm, _, hscan, List.map_take⟩

/-- The fault of a text that has a token stands at the end of the longest beginning of its lexemes that
is the beginning of a constraint. -/
theorem place_of_parse_error {text : String} {tokens : List Token} {e : SyntaxError}
    (hscan : Token.scan text.toList = .ok tokens) (hne : tokens ≠ []) (h : parse text = .error e) :
    ∃ k ≤ tokens.length, e.position = Token.place (Text.byteLength text.toList) tokens k ∧
      Viable ((tokens.map (·.lexeme)).take k) ∧
      ∀ j ≤ tokens.length, Viable ((tokens.map (·.lexeme)).take j) → j ≤ k := by
  have hviable {j : Nat} (hj : j ≤ tokens.length) : Viable ((tokens.map (·.lexeme)).take j) ↔
      ∃ s, State.start.steps ((tokens.map (·.lexeme)).take j) = .ok s := by
    obtain ⟨before, -, -, -, hbefore⟩ := scans_take hscan hj
    exact viable_iff_steps hbefore
  rw [parse_eq_error_iff, parseExpr_eq_verdict hscan hne] at h
  cases hverdict : State.start.verdict (tokens.map (·.lexeme)) with
  | ok expr =>
    rw [hverdict] at h
    cases h
  | error stop =>
    obtain ⟨k, fault⟩ := stop
    rw [hverdict] at h
    cases h
    obtain ⟨hk, hread, hmax⟩ := State.steps_of_verdict_eq_error hverdict
    rw [List.length_map] at hk hmax
    exact ⟨k, hk, rfl, (hviable hk).2 hread, fun j hj hv => hmax j hj ((hviable hj).1 hv)⟩

/-- An error of a text stands on a character boundary. Where the text has no token at some place, it
stands there, whatever the tokens before it are, and what is left cannot be read from its first
character on. A text without tokens has it at the beginning. Any other text has it where its `k`-th
token begins, or at its end if it has `k` tokens, for the longest beginning of its lexemes, `k` of
them, that is the beginning of a constraint. -/
theorem position_of_parse_error (text : String) (e : SyntaxError) (h : parse text = .error e) :
    e.position ≤ Text.byteLength text.toList ∧
      ∃ before after, text.toList = before ++ after ∧ Text.byteLength before = e.position ∧
        (∀ p fault, Token.scan text.toList = .error (p, fault) →
          e = ⟨p, .lexical fault⟩ ∧ (∃ tokens, Token.scan before = .ok tokens) ∧
            Token.scan after = .error (0, fault)) ∧
        (Token.scan text.toList = .ok [] → e.position = 0) ∧
        ∀ tokens, Token.scan text.toList = .ok tokens → tokens ≠ [] →
          ∃ k ≤ tokens.length,
            e.position = Token.place (Text.byteLength text.toList) tokens k ∧
            Viable ((tokens.map (·.lexeme)).take k) ∧
            ∀ j ≤ tokens.length, Viable ((tokens.map (·.lexeme)).take j) → j ≤ k := by
  -- A part of the text before the error bounds its position.
  have hbound {before after : List Char} (hsplit : text.toList = before ++ after)
      (hlen : Text.byteLength before = e.position) :
      e.position ≤ Text.byteLength text.toList := by
    rw [hsplit, Text.byteLength_append, hlen]
    exact Nat.le_add_right _ _
  cases hscan : Token.scan text.toList with
  | error stop =>
    obtain ⟨p, fault⟩ := stop
    rw [parse_eq_error_iff, parseExpr, hscan] at h
    cases h
    obtain ⟨before, after, tokens, hsplit, hp, hbefore, hafter⟩ := Token.exists_cut_of_error hscan
    rw [Nat.zero_add] at hp
    refine ⟨hbound hsplit hp.symm, before, after, hsplit, hp.symm, ?_, by simp, by simp⟩
    intro p' fault' heq
    cases heq
    exact ⟨rfl, ⟨tokens, hbefore⟩, hafter⟩
  | ok tokens =>
    by_cases hne : tokens = []
    · subst hne
      rw [parse_eq_error_iff, parseExpr, hscan] at h
      cases h
      exact ⟨Nat.zero_le _, [], text.toList, rfl, rfl, by simp, fun _ => rfl, by simp⟩
    · obtain ⟨k, hk, hplace, hviable, hmax⟩ := place_of_parse_error hscan hne h
      obtain ⟨before, after, hsplit, hlen, -⟩ := scans_take hscan hk
      rw [← hplace] at hlen
      refine ⟨hbound hsplit hlen, before, after, hsplit, hlen, by simp, by simp [hne], ?_⟩
      intro tokens' heq _
      cases heq
      exact ⟨k, hk, hplace, hviable, hmax⟩

/-- The second of two connectives in a row is at fault, and its place counts bytes. -/
theorem position_of_parse_error_connectives :
    parse "é == 'ü' AND OR b" = .error ⟨15, .expected .property⟩ ∧
      Viable [.word "é", .operator .eq, .string "ü", .word "AND"] ∧
      ¬Viable [.word "é", .operator .eq, .string "ü", .word "AND", .word "OR"] := by
  let tokens : List Token := [⟨.word "é", ['é'], 0⟩, ⟨.operator .eq, ['=', '='], 3⟩,
    ⟨.string "ü", ['\'', 'ü', '\''], 6⟩, ⟨.word "AND", ['A', 'N', 'D'], 11⟩,
    ⟨.word "OR", ['O', 'R'], 15⟩, ⟨.word "b", ['b'], 18⟩]
  have hscan : Token.scan "é == 'ü' AND OR b".toList = .ok tokens := by decide +kernel
  have hparse : parse "é == 'ü' AND OR b" = .error ⟨15, .expected .property⟩ := by
    rw [parse_eq_error_iff, parseExpr, hscan]
    rfl
  obtain ⟨-, -, -, -, -, -, -, hplace⟩ := position_of_parse_error _ _ hparse
  obtain ⟨k, hk, hpos, hviable, hmax⟩ := hplace tokens hscan (by simp [tokens])
  -- The only token at byte 15 is the fifth.
  have hfour : k = 4 := by
    have hall : ∀ i ∈ List.range 7, 15 = Token.place 19 tokens i → i = 4 := by decide
    exact hall k (List.mem_range.2 (Nat.lt_succ_of_le hk)) hpos
  subst hfour
  exact ⟨hparse, hviable, fun h => absurd (hmax 5 (by decide) h) (by decide)⟩

end PluginCatalog.Constraint
