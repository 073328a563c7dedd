import Mathlib.Tactic.Choose
import PluginCatalog.Proofs.Constraint.Unambiguity

/-!
# Constraints put together from parts

A text that is put together from parts is scanned part by part (`Writes`), as long as each part is
followed by something that no token goes on with. Separators are made so (`Separates`), and texts
with a separator between each two write their lexemes with those of the separator between them
(`Writes.separated`).

Groups under a connective are derived as its chain (`Grammar.Disjunction.exists_chain`), whatever
the expressions in the groups are. So texts in parentheses with a connective between each two are
read as the chain of what they are read as (`parseExpr_combined`), and a text in parentheses after
`NOT` as its negation (`parseExpr_complement`).
-/

namespace PluginCatalog.Constraint

/-! ## Parts of a text -/

/-- A text writes lexemes on a condition: before anything that no token goes on with, it can be
scanned exactly on the condition, and is then scanned as the lexemes. -/
def Writes (s : List Char) (p : Prop) (ls : List Lexeme) : Prop :=
  ∀ r ls', EndsToken r → (Scans (s ++ r) ls' ↔ p ∧ ∃ ls'', Scans r ls'' ∧ ls' = ls ++ ls'')

/-- A text separates others by lexemes: it ends the token before it, and what comes after it is
scanned as if it stood alone. -/
structure Separates (separator : List Char) (ls : List Lexeme) : Prop where
  /-- No token goes on with the separator. -/
  ends : ∀ r, EndsToken (separator ++ r)
  /-- The lexemes of the separator come before those of a text. -/
  writes : ∀ {s p ms}, Writes s p ms → Writes (separator ++ s) p (ls ++ ms)

namespace Writes

variable {s t : List Char} {p q : Prop} {ls ms ns : List Lexeme}

/-- A text that can be scanned writes its lexemes. -/
theorem of_scans (h : Scans s ls) : Writes s True ls := by
  intro r ls' hr
  rw [h.append_iff hr, true_and]

/-- A text alone can be scanned on the condition on which it writes. -/
theorem scans_iff (h : Writes s p ls) : Scans s ms ↔ p ∧ ms = ls := by
  have hs := h [] ms endsToken_nil
  rw [List.append_nil] at hs
  rw [hs]
  constructor
  · rintro ⟨hp, ls'', hls'', rfl⟩
    exact ⟨hp, by rw [hls''.unique .nil, List.append_nil]⟩
  · rintro ⟨hp, rfl⟩
    exact ⟨hp, [], .nil, (List.append_nil _).symm⟩

/-- The condition may be put differently. -/
theorem congr (h : Writes s p ls) (hpq : p ↔ q) : Writes s q ls := propext hpq ▸ h

/-- A part before another that ends its last token. -/
theorem append (h : Writes s p ls) (h' : Writes t q ms)
    (ht : ∀ r, EndsToken r → EndsToken (t ++ r)) : Writes (s ++ t) (p ∧ q) (ls ++ ms) := by
  intro r ls' hr
  rw [List.append_assoc, h _ _ (ht r hr)]
  constructor
  · rintro ⟨hp, ls₁, h₁, rfl⟩
    -- What the first part leaves is the second part with what follows.
    obtain ⟨hq, ls₂, h₂, rfl⟩ := (h' _ _ hr).1 h₁
    exact ⟨⟨hp, hq⟩, ls₂, h₂, by rw [List.append_assoc]⟩
  · rintro ⟨⟨hp, hq⟩, ls₂, h₂, rfl⟩
    exact ⟨hp, ms ++ ls₂, (h' _ _ hr).2 ⟨hq, ls₂, h₂, rfl⟩, by rw [List.append_assoc]⟩

/-- A blank before a text writes nothing. -/
theorem blank {c : Char} (hc : Text.isBlank c = true) (h : Writes s p ls) :
    Writes (c :: s) p ls := by
  intro r ls' hr
  rw [List.cons_append, Scans.blank_iff hc, h _ _ hr]

/-- A character that is a lexeme by itself, before a text. -/
theorem char {c : Char} {lexeme : Lexeme} (hc : Text.isBlank c = false)
    (hread : ∀ s, Lexeme.read c s = .ok (lexeme, [c], s)) (h : Writes s p ls) :
    Writes (c :: s) p (lexeme :: ls) := by
  intro r ls' hr
  rw [List.cons_append, Scans.cons_iff hc (hread _)]
  constructor
  · rintro ⟨ls₁, h₁, rfl⟩
    obtain ⟨hp, ls₂, h₂, rfl⟩ := (h _ _ hr).1 h₁
    exact ⟨hp, ls₂, h₂, rfl⟩
  · rintro ⟨hp, ls₂, h₂, rfl⟩
    exact ⟨ls ++ ls₂, (h _ _ hr).2 ⟨hp, ls₂, h₂, rfl⟩, rfl⟩

/-- A text after a blank after another. -/
theorem after {w : List Char} (hw : Scans w ms) (h : Writes s p ls) :
    Writes (w ++ ' ' :: s) p (ms ++ ls) := by
  have hblank : Writes (' ' :: s) p ls := h.blank (by decide)
  have hends (r : List Char) (_ : EndsToken r) : EndsToken (' ' :: s ++ r) :=
    endsToken_of_isBlank (by decide) _
  exact ((of_scans hw).append hblank hends).congr (and_iff_right trivial)

/-- A text that is closed by a bracket. -/
theorem closed {c : Char} {lexeme : Lexeme} (hc : isWordPart c = false) (heq : c ≠ '=')
    (hblank : Text.isBlank c = false) (hread : ∀ s, Lexeme.read c s = .ok (lexeme, [c], s))
    (h : Writes s p ls) : Writes (s ++ [c]) p (ls ++ [lexeme]) := by
  have hbracket : Writes [c] True [lexeme] := char hblank hread (of_scans .nil)
  refine (h.append hbracket ?_).congr (and_iff_left trivial)
  intro r _ d hd
  obtain rfl : c = d := by simpa using hd
  exact ⟨hc, heq⟩

/-- A text in brackets. -/
theorem bracketed (h : Writes s p ls) :
    Writes ('[' :: (s ++ [']'])) p (.openBracket :: (ls ++ [.closeBracket])) :=
  (h.closed (by decide) (by decide) (by decide) fun _ => rfl).char (by decide) fun _ => rfl

/-- Two parts with a separator between them. -/
theorem separate {separator : List Char} (h : Writes s p ls) (hsep : Separates separator ms)
    (h' : Writes t q ns) :
    Writes (s ++ separator ++ t) (p ∧ q) (ls ++ ms ++ ns) := by
  rw [List.append_assoc, List.append_assoc]
  refine h.append (hsep.writes h') fun r _ => ?_
  rw [List.append_assoc]
  exact hsep.ends _

/-- Several parts with a separator between each two. -/
theorem separated {α : Type} {separator : List Char} (hsep : Separates separator ms)
    {text : α → List Char} {p : α → Prop} {lexemes : α → List Lexeme} (items : List α)
    (h : ∀ a ∈ items, Writes (text a) (p a) (lexemes a)) :
    Writes (Text.separated separator (items.map text)) (∀ a ∈ items, p a)
      (ms.intercalate (items.map lexemes)) := by
  induction items with
  | nil =>
    have hnone : ∀ a ∈ ([] : List α), p a := List.forall_mem_nil p
    exact (of_scans .nil).congr (iff_of_true trivial hnone)
  | cons a items ih =>
    have ha := h a List.mem_cons_self
    cases items with
    | nil =>
      rw [List.map_singleton, List.map_singleton, List.intercalate_singleton]
      exact ha.congr List.forall_mem_singleton.symm
    | cons b items =>
      -- The first text ends before the separator, and the others write by induction.
      have hrest := ih fun c hc => h c (List.mem_cons_of_mem a hc)
      rw [List.map_cons, List.map_cons, List.map_cons, List.map_cons, List.intercalate_cons_cons]
      exact (ha.separate hsep hrest).congr List.forall_mem_cons.symm

end Writes

namespace Separates

/-- A text between blanks separates by its lexemes. -/
theorem spaced {w : List Char} {ls : List Lexeme} (hw : Scans w ls) :
    Separates (' ' :: (w ++ [' '])) ls where
  ends r := endsToken_of_isBlank (by decide) _
  writes := by
    intro s p ms h
    rw [List.cons_append, List.append_assoc]
    exact (h.after hw).blank (by decide)

/-- A comma separates, as the joining of items puts it. -/
theorem comma : Separates [',', ' '] [.comma] where
  ends r := by
    intro c hc
    obtain rfl : ',' = c := by simpa using hc
    exact ⟨by decide, by decide⟩
  writes h := (h.blank (by decide)).char (by decide) fun _ => rfl

end Separates

/-! ## Groups and chains -/

/-- A text in parentheses. -/
def parenthesized (s : List Char) : List Char := '(' :: (s ++ [')'])

/-- The lexemes of a group. -/
def grouped (ls : List Lexeme) : List Lexeme := .openParen :: (ls ++ [.closeParen])

/-- The word of a connective, as expressions are written. -/
def Connective.word : Connective → String
  | .and => "AND"
  | .or => "OR"
  | .not => "NOT"

/-- A text in parentheses writes a group. -/
theorem Writes.parenthesized {s : List Char} {p : Prop} {ls : List Lexeme} (h : Writes s p ls) :
    Writes (parenthesized s) p (grouped ls) :=
  (h.closed (by decide) (by decide) (by decide) fun _ => rfl).char (by decide) fun _ => rfl

/-- The words between the operands of a chain separate by the word of the connective. -/
theorem Separates.joiner {op : Connective} (hop : op ≠ .not) :
    Separates (Expr.joiner op) [.word op.word] := by
  cases op with
  | and => exact .spaced (Scans.word (s := ['A', 'N', 'D']) (by decide))
  | or => exact .spaced (Scans.word (s := ['O', 'R']) (by decide))
  | not => exact absurd rfl hop

/-- Texts in parentheses write a chain of groups. -/
theorem Writes.chain {α : Type} {op : Connective} (hop : op ≠ .not) {text : α → List Char}
    {p : α → Prop} {lexemes : α → List Lexeme} (items : List α)
    (h : ∀ a ∈ items, Writes (text a) (p a) (lexemes a)) :
    Writes (Text.separated (Expr.joiner op) (items.map fun a => Constraint.parenthesized (text a)))
      (∀ a ∈ items, p a)
      (List.intercalate [.word op.word] (items.map fun a => grouped (lexemes a))) :=
  .separated (.joiner hop) items fun a ha => (h a ha).parenthesized

namespace Grammar

/-- Terms under `AND` are derived as a chain of it. -/
theorem Conjunction.exists_chain (ts : List Term) (hne : ts ≠ []) :
    ∃ c : Conjunction, c.lexemes = List.intercalate [.word "AND"] (ts.map Term.lexemes) ∧
      c.operands = ts.map Term.expr := by
  induction ts with
  | nil => exact absurd rfl hne
  | cons t ts ih =>
    cases ts with
    | nil => exact ⟨.last t, by simp [lexemes], by simp [operands]⟩
    | cons t' ts =>
      obtain ⟨c, hlex, hops⟩ := ih (List.cons_ne_nil _ _)
      refine ⟨.more t ⟨"AND", by decide⟩ c, ?_, ?_⟩
      · rw [lexemes, hlex, List.map_cons, List.map_cons, List.map_cons, List.intercalate_cons_cons,
          List.append_assoc]
        rfl
      · rw [operands, hops]
        rfl

/-- Chains of `AND` under `OR` are derived as a chain of it. -/
theorem Disjunction.exists_chain_or (cs : List Conjunction) (hne : cs ≠ []) :
    ∃ d : Disjunction, d.lexemes = List.intercalate [.word "OR"] (cs.map Conjunction.lexemes) ∧
      d.operands = cs.map Conjunction.expr := by
  induction cs with
  | nil => exact absurd rfl hne
  | cons c cs ih =>
    cases cs with
    | nil => exact ⟨.last c, by simp [lexemes], by simp [operands]⟩
    | cons c' cs =>
      obtain ⟨d, hlex, hops⟩ := ih (List.cons_ne_nil _ _)
      refine ⟨.more c ⟨"OR", by decide⟩ d, ?_, ?_⟩
      · rw [lexemes, hlex, List.map_cons, List.map_cons, List.map_cons, List.intercalate_cons_cons,
          List.append_assoc]
        rfl
      · rw [operands, hops]
        rfl

/-- Groups under `AND` or `OR` are derived as its chain. -/
theorem Disjunction.exists_chain {op : Connective} (hop : op ≠ .not) (ds : List Disjunction)
    (hne : ds ≠ []) :
    ∃ d : Disjunction,
      d.lexemes = List.intercalate [.word op.word] (ds.map fun d => grouped d.lexemes) ∧
      d.expr = .chain op (ds.map Disjunction.expr) := by
  have hterms : (ds.map Term.group).map Term.lexemes = ds.map fun d => grouped d.lexemes := by
    rw [List.map_map]
    exact List.map_congr_left fun d _ => Term.lexemes.eq_2 d
  have hexprs : (ds.map Term.group).map Term.expr = ds.map Disjunction.expr := by
    rw [List.map_map]
    exact List.map_congr_left fun d _ => Term.expr.eq_2 d
  cases op with
  -- The groups are the terms of one chain of `AND`.
  | and =>
    obtain ⟨c, hlex, hops⟩ := Conjunction.exists_chain (ds.map .group) (by simpa using hne)
    refine ⟨.last c, ?_, ?_⟩
    · rw [lexemes, hlex, hterms]
      rfl
    · rw [expr, c.expr_eq, hops, hexprs]
  -- Each group is a chain of `AND` with one term.
  | or =>
    obtain ⟨d, hlex, hops⟩ := exists_chain_or (ds.map fun d => .last (.group d)) (by simpa using hne)
    refine ⟨d, ?_, ?_⟩
    · rw [hlex, List.map_map, ← hterms, List.map_map]
      rfl
    · rw [d.expr_eq, hops, List.map_map, ← hexprs, List.map_map]
      rfl
  | not => exact absurd rfl hop

/-- A group after `NOT` is derived as its negation. -/
theorem Disjunction.exists_negation (d : Disjunction) :
    ∃ d' : Disjunction, d'.lexemes = .word "NOT" :: grouped d.lexemes ∧
      d'.expr = .logical .not [d.expr] :=
  ⟨.last (.last (.negation ⟨"NOT", by decide⟩ (.group d))), rfl, rfl⟩

end Grammar

/-! ## Texts put together -/

open Grammar (Disjunction)

/-- The text of several texts in parentheses with a connective between each two. -/
def combined (op : Connective) (texts : List String) : String :=
  String.ofList (Text.separated (Expr.joiner op) (texts.map fun t => parenthesized t.toList))

/-- The text of a text in parentheses after `NOT`. -/
def complement (text : String) : String :=
  String.ofList ("NOT ".toList ++ parenthesized text.toList)

/-- Several texts under `AND` or `OR` are read as the chain of what they are read as. -/
theorem parseExpr_combined (op : Connective) (hop : op ≠ .not) {texts : List String}
    (hne : texts ≠ []) (root : String → Expr) (h : ∀ t ∈ texts, parseExpr t = .ok (root t)) :
    parseExpr (combined op texts) = .ok (.chain op (texts.map root)) := by
  have hparts : ∀ t ∈ texts, ∃ d : Disjunction, Scans t.toList d.lexemes ∧ d.expr = root t :=
    fun t ht => parseExpr_eq_ok_iff_scans.1 (h t ht)
  have : Nonempty Disjunction := by
    obtain ⟨t, ht⟩ := List.exists_mem_of_ne_nil texts hne
    exact (hparts t ht).nonempty
  -- One derivation of each text, put together as groups.
  choose! part hscans hroot using hparts
  obtain ⟨d, hlex, hexpr⟩ := Disjunction.exists_chain hop (texts.map part) (by simpa using hne)
  have hwrites := Writes.chain hop texts fun t ht => Writes.of_scans (hscans t ht)
  refine parseExpr_eq_ok_iff_scans.2 ⟨d, ?_, ?_⟩
  · rw [combined, String.toList_ofList, hwrites.scans_iff, hlex, List.map_map]
    exact ⟨fun _ _ => trivial, rfl⟩
  · rw [hexpr, List.map_map]
    exact congrArg _ (List.map_congr_left hroot)

example : combined .and ["a == 1", "EXIST b"] = "(a == 1) AND (EXIST b)" := by decide

/-- A text after `NOT` is read as the negation of what it is read as. -/
theorem parseExpr_complement {text : String} {e : Expr} (h : parseExpr text = .ok e) :
    parseExpr (complement text) = .ok (.logical .not [e]) := by
  obtain ⟨d, hscans, rfl⟩ := parseExpr_eq_ok_iff_scans.1 h
  obtain ⟨d', hlex, hexpr⟩ := d.exists_negation
  have hword : Scans ['N', 'O', 'T'] [.word "NOT"] := .word (by decide)
  have hwrites := (Writes.of_scans hscans).parenthesized.after hword
  have htext : (complement text).toList = ['N', 'O', 'T'] ++ ' ' :: parenthesized text.toList :=
    String.toList_ofList
  refine parseExpr_eq_ok_iff_scans.2 ⟨d', ?_, hexpr⟩
  rw [htext, hlex]
  exact hwrites.scans_iff.2 ⟨trivial, rfl⟩

end PluginCatalog.Constraint
