import PluginCatalog.Constraint.Parser

/-!
# The grammar of constraints

The grammar of the constraint language, written as the type of its derivations: one constructor for
each production, with the lexemes that the production takes from the text.

    disjunction := conjunction ( OR conjunction )*
    conjunction := term ( AND term )*
    term        := NOT term | ( disjunction ) | EXIST property | property operator literal
                 | property IN [ literals ] | literal IN property
    property    := [ word ] | word
    literal     := string | number | TRUE | FALSE

The literals of a list stand between commas, and there may be none. A keyword is spelled by a word
in any mixture of upper and lower case (`Spelling`), and a property without brackets is spelled by a
word that spells none. Each derivation has its lexemes from left to right (`lexemes`) and its
expression (`expr`): a chain of several operands is one node, a chain of one operand is that
operand, and a group is the operand that it is.
-/

namespace PluginCatalog.Constraint

/-! ## Keywords -/

namespace Keyword

/-- A keyword in lower case. -/
def text : Keyword → String
  | and => "and"
  | or => "or"
  | not => "not"
  | .in => "in"
  | exist => "exist"
  | true => "true"
  | false => "false"

/-- A word is read as a keyword if it agrees with it up to case. -/
theorem ofWord?_eq_some_iff {w : String} {k : Keyword} :
    ofWord? w = some k ↔ Text.sameWord w k.text = .true := by
  constructor
  · intro h
    unfold ofWord? at h
    repeat' split at h
    all_goals cases h
    all_goals assumption
  · intro h
    have hw : Text.foldCase w = Text.foldCase k.text := of_decide_eq_true h
    unfold ofWord? Text.sameWord
    rw [hw]
    cases k <;> decide

/-- A word is read as no keyword if it agrees with none. -/
theorem ofWord?_eq_none_iff {w : String} :
    ofWord? w = none ↔ ∀ k : Keyword, Text.sameWord w k.text = .false := by
  rw [Option.eq_none_iff_forall_ne_some]
  exact forall_congr' fun k => by rw [ne_eq, ofWord?_eq_some_iff, Bool.not_eq_true]

end Keyword

namespace Grammar

/-! ## Words, properties and literals -/

/-- A word that spells a keyword. -/
structure Spelling (k : Keyword) where
  /-- The word. -/
  word : String
  /-- Up to case, it is the keyword. -/
  spells : Text.sameWord word k.text = true

/-- A keyword is spelled by the words that are read as it. -/
theorem Spelling.ofWord?_word {k : Keyword} (w : Spelling k) : Keyword.ofWord? w.word = some k :=
  Keyword.ofWord?_eq_some_iff.2 w.spells

/-- The lexeme of a spelling. -/
def Spelling.lexeme {k : Keyword} (w : Spelling k) : Lexeme := .word w.word

/-- Two spellings of a keyword by the same word are the same. -/
theorem Spelling.ext_word {k : Keyword} {w w' : Spelling k} (h : w.word = w'.word) : w = w' := by
  cases w
  cases w'
  subst h
  rfl

/-- A spelling is read as its keyword. -/
@[simp] theorem Spelling.keyword?_lexeme {k : Keyword} (w : Spelling k) :
    State.keyword? w.lexeme = some k := w.ofWord?_word

/-- A derivation of a property. -/
inductive Property where
  /-- Any word between brackets, a keyword too. -/
  | bracketed (key : String)
  /-- A word that spells no keyword. -/
  | bare (key : String) (free : ∀ k : Keyword, Text.sameWord key k.text = false)

namespace Property

/-- The key of a property. -/
def key : Property → String
  | bracketed key => key
  | bare key _ => key

/-- The lexemes of a property. -/
def lexemes : Property → List Lexeme
  | bracketed key => [.openBracket, .word key, .closeBracket]
  | bare key _ => [.word key]

end Property

/-- A derivation of a literal. -/
inductive Constant where
  | string (s : String)
  | number (x : Binary64)
  | true (word : Spelling .true)
  | false (word : Spelling .false)

namespace Constant

/-- The constant that a literal is. -/
def literal : Constant → Literal
  | string s => .string s
  | number x => .number x
  | true _ => .bool .true
  | false _ => .bool .false

/-- The lexeme of a literal. -/
def lexeme : Constant → Lexeme
  | string s => .string s
  | number x => .number x
  | true word => word.lexeme
  | false word => word.lexeme

/-- The lexeme of a literal is read as it. -/
@[simp] theorem literal?_lexeme (l : Constant) : State.literal? l.lexeme = some l.literal := by
  cases l with
  | string s => rfl
  | number x => rfl
  | true w => simp [lexeme, literal, Spelling.lexeme, State.literal?, w.ofWord?_word]
  | false w => simp [lexeme, literal, Spelling.lexeme, State.literal?, w.ofWord?_word]

/-- A lexeme that is read as a constant is the lexeme of a literal. -/
theorem exists_of_literal? {t : Lexeme} {l : Literal} (h : State.literal? t = some l) :
    ∃ c : Constant, c.lexeme = t ∧ c.literal = l := by
  unfold State.literal? at h
  split at h
  · cases h; exact ⟨.string _, rfl, rfl⟩
  · cases h; exact ⟨.number _, rfl, rfl⟩
  · split at h
    · rename_i hw; cases h; exact ⟨.true ⟨_, Keyword.ofWord?_eq_some_iff.1 hw⟩, rfl, rfl⟩
    · rename_i hw; cases h; exact ⟨.false ⟨_, Keyword.ofWord?_eq_some_iff.1 hw⟩, rfl, rfl⟩
    · cases h
  · cases h

/-- The lexemes of literals with commas between them. -/
def lexemesOf (items : List Constant) : List Lexeme :=
  (items.map lexeme).intersperse .comma

end Constant

/-! ## Terms and chains -/

mutual

/-- A derivation of a term. -/
inductive Term where
  /-- `NOT term` -/
  | negation (word : Spelling .not) (operand : Term)
  /-- `( disjunction )` -/
  | group (inner : Disjunction)
  /-- `EXIST property` -/
  | presence (word : Spelling .exist) (property : Property)
  /-- `property operator literal` -/
  | comparison (left : Property) (op : Comparison) (right : Constant)
  /-- `property IN [ literals ]` -/
  | inList (value : Property) (word : Spelling .in) (items : List Constant)
  /-- `literal IN property` -/
  | inProperty (value : Constant) (word : Spelling .in) (list : Property)

/-- A derivation of a chain of `AND`. -/
inductive Conjunction where
  /-- `term` -/
  | last (operand : Term)
  /-- `term AND conjunction` -/
  | more (operand : Term) (word : Spelling .and) (rest : Conjunction)

/-- A derivation of a chain of `OR`. -/
inductive Disjunction where
  /-- `conjunction` -/
  | last (operand : Conjunction)
  /-- `conjunction OR disjunction` -/
  | more (operand : Conjunction) (word : Spelling .or) (rest : Disjunction)

end

mutual

/-- The lexemes of a term. -/
def Term.lexemes : Term → List Lexeme
  | .negation word t => word.lexeme :: t.lexemes
  | .group d => .openParen :: (d.lexemes ++ [.closeParen])
  | .presence word p => word.lexeme :: p.lexemes
  | .comparison p op l => p.lexemes ++ [.operator op, l.lexeme]
  | .inList p word items =>
    p.lexemes ++ word.lexeme :: .openBracket :: (Constant.lexemesOf items ++ [.closeBracket])
  | .inProperty l word p => l.lexeme :: word.lexeme :: p.lexemes

/-- The lexemes of a chain of `AND`. -/
def Conjunction.lexemes : Conjunction → List Lexeme
  | .last t => t.lexemes
  | .more t word rest => t.lexemes ++ word.lexeme :: rest.lexemes

/-- The lexemes of a chain of `OR`. -/
def Disjunction.lexemes : Disjunction → List Lexeme
  | .last c => c.lexemes
  | .more c word rest => c.lexemes ++ word.lexeme :: rest.lexemes

end

mutual

/-- The expression of a term. -/
def Term.expr : Term → Expr
  | .negation _ t => .logical .not [t.expr]
  | .group d => d.expr
  | .presence _ p => .presence p.key
  | .comparison p op l => .comparison op (.property p.key) (.literal l.literal)
  | .inList p _ items => .membership (.property p.key) (.list (items.map Constant.literal))
  | .inProperty l _ p => .membership (.literal l.literal) (.property p.key)

/-- The expression of a chain of `AND`: its operands under one node if there are several. -/
def Conjunction.expr : Conjunction → Expr
  | .last t => t.expr
  | .more t _ rest => .logical .and (t.expr :: rest.operands)

/-- The operands of a chain of `AND`, from left to right. -/
def Conjunction.operands : Conjunction → List Expr
  | .last t => [t.expr]
  | .more t _ rest => t.expr :: rest.operands

/-- The expression of a chain of `OR`: its operands under one node if there are several. -/
def Disjunction.expr : Disjunction → Expr
  | .last c => c.expr
  | .more c _ rest => .logical .or (c.expr :: rest.operands)

/-- The operands of a chain of `OR`, from left to right. -/
def Disjunction.operands : Disjunction → List Expr
  | .last c => [c.expr]
  | .more c _ rest => c.expr :: rest.operands

end

end Grammar

end PluginCatalog.Constraint
