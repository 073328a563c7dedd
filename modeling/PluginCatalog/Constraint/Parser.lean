import PluginCatalog.Constraint.Token

/-!
# Reading constraints

The tokens of a constraint are read from left to right by a pushdown automaton. Its state says what is
expected next, which operands of the current expression are finished, and which expressions around it
wait for a closing parenthesis. `OR` binds weakest, then `AND`, then `NOT`; a chain of two or more
operands without parentheses becomes one node. Words in any case that spell a keyword are keywords,
except between brackets, where every word is a property.

The automaton stops at the first token that no constraint can have after the tokens before it, and the
error names the place of that token.
-/

namespace PluginCatalog.Constraint

/-- The reserved words. -/
inductive Keyword where
  | and
  | or
  | not
  | in
  | exist
  | true
  | false
  deriving DecidableEq

/-- The keyword that a word spells, in any case. -/
def Keyword.ofWord? (w : String) : Option Keyword :=
  if Text.sameWord w "and" then some and
  else if Text.sameWord w "or" then some or
  else if Text.sameWord w "not" then some not
  else if Text.sameWord w "in" then some .in
  else if Text.sameWord w "exist" then some exist
  else if Text.sameWord w "true" then some true
  else if Text.sameWord w "false" then some false
  else none

/-- What a constraint lacks at some place. -/
inductive Expectation where
  /-- A property, where a term or a property has to be. -/
  | property
  /-- The bracket that closes a property. -/
  | closeProperty
  /-- `IN` after a constant. -/
  | inAfterLiteral
  /-- What follows the property at the left. -/
  | comparison
  /-- A constant. -/
  | literal
  /-- The bracket that opens a list. -/
  | openList
  /-- What follows an item of a list. -/
  | listEnd
  /-- The parenthesis that closes a group. -/
  | closeParen
  deriving DecidableEq

/-- What an expectation calls for. -/
def Expectation.wanted : Expectation → String
  | property => "property name"
  | closeProperty => "']' after property name"
  | inAfterLiteral => "IN after literal"
  | comparison => "comparison operator or IN"
  | literal => "literal"
  | openList => "'[' to open literal list"
  | listEnd => "',' or ']' in literal list"
  | closeParen => "')'"

/-- Why a text is no constraint. -/
inductive SyntaxFault where
  /-- A place without a token. -/
  | lexical (fault : LexicalFault)
  /-- No token at all. -/
  | empty
  /-- Something else than what has to come next. -/
  | expected (what : Expectation)
  /-- More than one expression. -/
  | trailing
  deriving DecidableEq

/-- The wording of a fault. -/
def SyntaxFault.message : SyntaxFault → String
  | lexical fault => fault.message
  | empty => "empty constraint"
  | expected what => "expected " ++ what.wanted
  | trailing => "unexpected trailing input"

/-- A fault with its place. -/
structure SyntaxError where
  /-- The byte at which the offending token begins. -/
  position : Nat
  /-- What is wrong there. -/
  fault : SyntaxFault
  deriving DecidableEq

/-- The wording of an error. -/
def SyntaxError.message (e : SyntaxError) : String :=
  "Constraint syntax error at position " ++ String.ofList (Decimal.text e.position) ++ ": "
    ++ e.fault.message

/-! ## The automaton -/

/-- The finished parts of an expression that is being read. -/
structure Level where
  /-- The finished operands of `OR`, last one first. -/
  alternatives : List Expr
  /-- The finished operands of `AND` after those, last one first. -/
  conjuncts : List Expr
  /-- The number of `NOT`s before the next operand. -/
  negations : Nat

namespace Level

/-- An expression of which nothing has been read. -/
def start : Level := ⟨[], [], 0⟩

/-- One more `NOT` before the next operand. -/
def negate (l : Level) : Level := { l with negations := l.negations + 1 }

/-- The next operand, which takes the negations before it. -/
def add (l : Level) (e : Expr) : Level :=
  ⟨l.alternatives, e.negated l.negations :: l.conjuncts, 0⟩

/-- The end of a chain of `AND`. -/
def endChain (l : Level) : Level :=
  ⟨.chain .and l.conjuncts.reverse :: l.alternatives, [], l.negations⟩

/-- The expression that has been read. -/
def expr (l : Level) : Expr := .chain .or l.endChain.alternatives.reverse

end Level

/-- What a property is read for. -/
inductive Role where
  /-- The left side of a comparison or a membership. -/
  | subject
  /-- A presence test. -/
  | presence
  /-- The list in which a constant is looked for. -/
  | container (l : Literal)

/-- What the automaton expects next. -/
inductive Expecting where
  /-- A term. -/
  | term
  /-- A property. -/
  | property (role : Role)
  /-- The name of a property between brackets. -/
  | name (role : Role)
  /-- The closing bracket of a property. -/
  | closeProperty (role : Role) (key : String)
  /-- `IN` after a constant. -/
  | inAfterLiteral (l : Literal)
  /-- An operator or `IN` after a property. -/
  | comparison (key : String)
  /-- The right side of a comparison. -/
  | rightSide (key : String) (op : Comparison)
  /-- The bracket that opens a list. -/
  | openList (key : String)
  /-- The first item of a list, or its end. -/
  | firstItem (key : String)
  /-- An item of a list; those before it, last one first. -/
  | item (key : String) (items : List Literal)
  /-- A comma or the end of a list. -/
  | listEnd (key : String) (items : List Literal)
  /-- A connective, a closing parenthesis or the end, after a complete term. -/
  | connective

/-- The state of the automaton. -/
structure State where
  /-- What comes next. -/
  expecting : Expecting
  /-- The expression that is being read. -/
  level : Level
  /-- The expressions around it, innermost first. -/
  outer : List Level

namespace State

/-- The state before the first token. -/
def start : State := ⟨.term, .start, []⟩

/-- A term is complete. -/
def complete (s : State) (e : Expr) : State := ⟨.connective, s.level.add e, s.outer⟩

/-- Something else is expected next. -/
def expect (s : State) (e : Expecting) : State := { s with expecting := e }

/-- A property is complete. -/
def useProperty (s : State) (key : String) : Role → State
  | .subject => s.expect (.comparison key)
  | .presence => s.complete (.presence key)
  | .container l => s.complete (.membership (.literal l) (.property key))

/-- The constant that a lexeme is. -/
def literal? : Lexeme → Option Literal
  | .string s => some (.string s)
  | .number x => some (.number x)
  | .word w =>
    match Keyword.ofWord? w with
    | some .true => some (.bool true)
    | some .false => some (.bool false)
    | _ => none
  | _ => none

/-- The keyword that a lexeme is. -/
def keyword? : Lexeme → Option Keyword
  | .word w => Keyword.ofWord? w
  | _ => none

/-- Reads the beginning of a property. -/
def readProperty (s : State) (role : Role) : Lexeme → Except SyntaxFault State
  | .openBracket => .ok (s.expect (.name role))
  | .word w =>
    if (Keyword.ofWord? w).isNone then .ok (s.useProperty w role)
    else .error (.expected .property)
  | _ => .error (.expected .property)

/-- Reads the beginning of a term. -/
def readTerm (s : State) (t : Lexeme) : Except SyntaxFault State :=
  if keyword? t = some .not then .ok { s with level := s.level.negate }
  else if keyword? t = some .exist then .ok (s.expect (.property .presence))
  else if t = .openParen then .ok ⟨.term, .start, s.level :: s.outer⟩
  else
    match literal? t with
    | some l => .ok (s.expect (.inAfterLiteral l))
    | none => s.readProperty .subject t

/-- Reads what follows a complete term. -/
def readConnective (s : State) (t : Lexeme) : Except SyntaxFault State :=
  if keyword? t = some .and then .ok (s.expect .term)
  else if keyword? t = some .or then .ok ⟨.term, s.level.endChain, s.outer⟩
  else
    match s.outer, t with
    | [], _ => .error .trailing
    | level :: outer, .closeParen => .ok ⟨.connective, level.add s.level.expr, outer⟩
    | _ :: _, _ => .error (.expected .closeParen)

/-- The state after a lexeme, or what is wrong with the lexeme. -/
def step (s : State) (t : Lexeme) : Except SyntaxFault State :=
  match s.expecting with
  | .term => s.readTerm t
  | .property role => s.readProperty role t
  | .name role =>
    match t with
    | .word w => .ok (s.expect (.closeProperty role w))
    | _ => .error (.expected .property)
  | .closeProperty role key =>
    if t = .closeBracket then .ok (s.useProperty key role) else .error (.expected .closeProperty)
  | .inAfterLiteral l =>
    if keyword? t = some .in then .ok (s.expect (.property (.container l)))
    else .error (.expected .inAfterLiteral)
  | .comparison key =>
    if keyword? t = some .in then .ok (s.expect (.openList key))
    else
      match t with
      | .operator op => .ok (s.expect (.rightSide key op))
      | _ => .error (.expected .comparison)
  | .rightSide key op =>
    match literal? t with
    | some l => .ok (s.complete (.comparison op (.property key) (.literal l)))
    | none => .error (.expected .literal)
  | .openList key =>
    if t = .openBracket then .ok (s.expect (.firstItem key)) else .error (.expected .openList)
  | .firstItem key =>
    if t = .closeBracket then .ok (s.complete (.membership (.property key) (.list [])))
    else
      match literal? t with
      | some l => .ok (s.expect (.listEnd key [l]))
      | none => .error (.expected .literal)
  | .item key items =>
    match literal? t with
    | some l => .ok (s.expect (.listEnd key (l :: items)))
    | none => .error (.expected .literal)
  | .listEnd key items =>
    if t = .comma then .ok (s.expect (.item key items))
    else if t = .closeBracket then
      .ok (s.complete (.membership (.property key) (.list items.reverse)))
    else .error (.expected .listEnd)
  | .connective => s.readConnective t

/-- The expression after the last lexeme, or what is missing. -/
def finish (s : State) : Except SyntaxFault Expr :=
  match s.expecting with
  | .term | .property _ | .name _ => .error (.expected .property)
  | .closeProperty _ _ => .error (.expected .closeProperty)
  | .inAfterLiteral _ => .error (.expected .inAfterLiteral)
  | .comparison _ => .error (.expected .comparison)
  | .rightSide _ _ | .firstItem _ | .item _ _ => .error (.expected .literal)
  | .openList _ => .error (.expected .openList)
  | .listEnd _ _ => .error (.expected .listEnd)
  | .connective =>
    match s.outer with
    | [] => .ok s.level.expr
    | _ :: _ => .error (.expected .closeParen)

/-- Reads tokens up to the end of the text, which is at byte `stop`. -/
def run (stop : Nat) : State → List Token → Except SyntaxError Expr
  | s, [] => s.finish.mapError (⟨stop, ·⟩)
  | s, t :: ts =>
    match s.step t.lexeme with
    | .error fault => .error ⟨t.start, fault⟩
    | .ok s => run stop s ts

end State

end Constraint

/-- A constraint: its text and the expression that the text is read as. -/
structure Constraint where
  /-- The text. -/
  source : String
  /-- The expression. -/
  root : Constraint.Expr

namespace Constraint

/-- Reads the expression of a constraint text. -/
def parseExpr (text : String) : Except SyntaxError Expr :=
  match Token.scan text.toList with
  | .error (position, fault) => .error ⟨position, .lexical fault⟩
  | .ok [] => .error ⟨0, .empty⟩
  | .ok (t :: ts) => State.start.run (Text.byteLength text.toList) (t :: ts)

/-- Reads a constraint. -/
def parse (text : String) : Except SyntaxError Constraint :=
  (parseExpr text).map (⟨text, ·⟩)

end Constraint

end PluginCatalog
