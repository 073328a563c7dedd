import PluginCatalog.Proofs.Constraint.Cutting
import PluginCatalog.Proofs.Constraint.Unambiguity

/-!
# What a run of the automaton finds

What is wrong with a text does not depend on where its tokens stand: the automaton sees lexemes, and
the place of an error is the place of the lexeme at which it stops. `State.verdict` says of a list of
lexemes what the automaton finds, the expression or the number of lexemes before the fault; a run on
tokens reports it with the place of that token (`State.run_eq_verdict`).
-/

namespace PluginCatalog.Constraint

namespace State

/-- What reading some lexemes to the end finds: the expression, or a fault with the number of lexemes
before it. -/
def verdict (s : State) : List Lexeme → Except (Nat × SyntaxFault) Expr
  | [] => s.finish.mapError (0, ·)
  | t :: ts =>
    match s.step t with
    | .error fault => .error (0, fault)
    | .ok s' => (s'.verdict ts).mapError fun e => (e.1 + 1, e.2)

/-- A run reports a fault at the place of the lexeme at which it stops. -/
theorem run_eq_verdict (stop : Nat) (s : State) (tokens : List Token) :
    s.run stop tokens
      = (s.verdict (tokens.map (·.lexeme))).mapError fun e =>
          ⟨Token.place stop tokens e.1, e.2⟩ := by
  induction tokens generalizing s with
  | nil =>
    rw [run, List.map_nil, verdict]
    cases s.finish <;> rfl
  | cons t ts ih =>
    rw [run, List.map_cons, verdict]
    cases s.step t.lexeme with
    | error fault => rfl
    | ok s' =>
      dsimp only
      rw [ih]
      cases s'.verdict (ts.map (·.lexeme)) with
      | error e => simp [Except.mapError, Token.place]
      | ok e => rfl

/-- The lexemes before a fault can be read, and no more of them. -/
theorem steps_of_verdict_eq_error {s : State} {ls : List Lexeme} {k : Nat} {fault : SyntaxFault}
    (h : s.verdict ls = .error (k, fault)) :
    k ≤ ls.length ∧ (∃ s', s.steps (ls.take k) = .ok s') ∧
      ∀ j ≤ ls.length, (∃ s', s.steps (ls.take j) = .ok s') → j ≤ k := by
  induction ls generalizing s k with
  | nil =>
    rw [verdict] at h
    cases hf : s.finish with
    | ok e =>
      rw [hf] at h
      cases h
    | error fault' =>
      rw [hf] at h
      cases h
      exact ⟨Nat.le_refl 0, ⟨s, rfl⟩, fun j hj _ => hj⟩
  | cons t ts ih =>
    rw [verdict] at h
    cases hs : s.step t with
    | error fault' =>
      -- The first lexeme is refused, so only the empty beginning can be read.
      rw [hs] at h
      cases h
      refine ⟨Nat.zero_le _, ⟨s, rfl⟩, ?_⟩
      rintro (_ | j) - ⟨s', hsteps⟩
      · exact Nat.le_refl 0
      · rw [List.take_succ_cons, steps, hs] at hsteps
        cases hsteps
    | ok s₁ =>
      rw [hs] at h
      cases hv : s₁.verdict ts with
      | ok e =>
        simp only [hv] at h
        cases h
      | error e =>
        obtain ⟨k', fault'⟩ := e
        simp only [hv] at h
        cases h
        obtain ⟨hle, ⟨s', hread⟩, hmax⟩ := ih hv
        refine ⟨Nat.succ_le_succ hle, ⟨s', by rw [List.take_succ_cons, steps_cons hs, hread]⟩, ?_⟩
        rintro (_ | j) hj ⟨s'', hsteps⟩
        · exact Nat.zero_le _
        · rw [List.take_succ_cons, steps_cons hs] at hsteps
          exact Nat.succ_le_succ (hmax j (Nat.le_of_succ_le_succ hj) ⟨s'', hsteps⟩)

end State

/-- A constraint and its expression are refused with the same error. -/
theorem parse_eq_error_iff {text : String} {e : SyntaxError} :
    parse text = .error e ↔ parseExpr text = .error e := by
  rw [parse]
  cases parseExpr text <;> simp [Except.map]

/-- A text that has a token is read as the automaton finds, and an error stands at the token at which
it stops. -/
theorem parseExpr_eq_verdict {text : String} {tokens : List Token}
    (h : Token.scan text.toList = .ok tokens) (hne : tokens ≠ []) :
    parseExpr text = (State.start.verdict (tokens.map (·.lexeme))).mapError fun e =>
      ⟨Token.place (Text.byteLength text.toList) tokens e.1, e.2⟩ := by
  obtain ⟨t, ts, rfl⟩ := List.exists_cons_of_ne_nil hne
  rw [parseExpr, h]
  exact State.run_eq_verdict _ _ _

end PluginCatalog.Constraint
