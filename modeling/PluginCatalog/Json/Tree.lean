import PluginCatalog.Json.Token

/-!
# The form of a JSON text

`Tree.read?` reads the JSON value at the front of a text and gives its form with the text that
follows. The form keeps all members of an object in the order of the text, and leaves that have no
content as such; what they matter is up to the one who reads the form. `Tree.ofText?` reads a whole
text.

The reader is a pushdown automaton that takes one token at a time, so it needs no bound on the depth
of the text. `Tree.json?` gives the value of a form.
-/

namespace PluginCatalog.Json

/-- The form of a JSON text. -/
inductive Tree where
  | null
  | bool (b : Bool)
  /-- A number, without content if it is too large. -/
  | number (n : Option JsonNumber)
  /-- A string, without content if it holds half of a surrogate pair. -/
  | string (s : Option String)
  | array (items : List Tree)
  | object (members : List (Option String × Tree))

namespace Tree

instance : Inhabited Tree := ⟨null⟩

/-- A container that waits for a value. -/
inductive Pending where
  /-- An array with the items before the value, last one first. -/
  | array (items : List Tree)
  /-- An object with the members before the value, last one first, and the name of the value. -/
  | object (members : List (Option String × Tree)) (key : Option String)

/-- What the reader expects next; the containers around that wait, innermost first. -/
inductive State where
  /-- A value. -/
  | value (waiting : List Pending)
  /-- The first item of an array, or its end. -/
  | firstItem (waiting : List Pending)
  /-- A comma or the end of an array. -/
  | afterItem (items : List Tree) (waiting : List Pending)
  /-- The first name of an object, or its end. -/
  | firstName (waiting : List Pending)
  /-- A name. -/
  | name (members : List (Option String × Tree)) (waiting : List Pending)
  /-- The colon after a name. -/
  | afterName (members : List (Option String × Tree)) (key : Option String)
      (waiting : List Pending)
  /-- A comma or the end of an object. -/
  | afterMember (members : List (Option String × Tree)) (waiting : List Pending)
  /-- Nothing: a value is complete. -/
  | finished (t : Tree)

namespace State

/-- Hands a value to the innermost container that waits for one. -/
def give (t : Tree) : List Pending → State
  | [] => finished t
  | .array items :: waiting => afterItem (t :: items) waiting
  | .object members key :: waiting => afterMember ((key, t) :: members) waiting

/-- The state after a token where a value is expected. -/
def beginValue? (waiting : List Pending) : Token → Option State
  | .openArray => some (firstItem waiting)
  | .openObject => some (firstName waiting)
  | .null => some (give .null waiting)
  | .bool b => some (give (.bool b) waiting)
  | .number n => some (give (.number n) waiting)
  | .string s => some (give (.string s) waiting)
  | _ => none

/-- The state after a token. -/
def step? : State → Token → Option State
  | value w, t => beginValue? w t
  | firstItem w, .closeArray => some (give (.array []) w)
  | firstItem w, t => beginValue? (.array [] :: w) t
  | afterItem items w, .comma => some (value (.array items :: w))
  | afterItem items w, .closeArray => some (give (.array items.reverse) w)
  | firstName w, .closeObject => some (give (.object []) w)
  | firstName w, .string s => some (afterName [] s w)
  | name members w, .string s => some (afterName members s w)
  | afterName members s w, .colon => some (value (.object members s :: w))
  | afterMember members w, .comma => some (name members w)
  | afterMember members w, .closeObject => some (give (.object members.reverse) w)
  | _, _ => none

/-- Takes tokens until a value is complete. -/
def run? (state : State) (s : List Char) : Option (Tree × List Char) :=
  match state with
  | finished t => some (t, s)
  | state =>
    match _ : Token.read? s with
    | none => none
    | some (token, rest) =>
      match state.step? token with
      | none => none
      | some state => run? state rest
termination_by s.length
decreasing_by exact Token.length_read ‹_›

end State

/-- Reads the value at the front of a text. -/
def read? (s : List Char) : Option (Tree × List Char) := (State.value []).run? s

/-- Reads a whole text: one value with nothing but space around it. -/
def ofText? (s : List Char) : Option Tree := do
  let (t, rest) ← read? s
  if rest.all isSpace then some t else none

/-! ## The value of a form -/

mutual

/-- The value of a form, none if a leaf has no content or more than `depth` containers are nested.
Of several members with one name the last is kept. -/
def json? (depth : Nat) : Tree → Option Json
  | null => some .null
  | bool b => some (.bool b)
  | number n => n.map .number
  | string s => s.map .string
  | array items =>
    match depth with
    | 0 => none
    | depth + 1 => (jsonItems? depth items).map .array
  | object members =>
    match depth with
    | 0 => none
    | depth + 1 => (jsonMembers? depth members).map fun ms => .ofDict (.ofList ms)

/-- The values of the items of an array. -/
def jsonItems? (depth : Nat) : List Tree → Option (List Json)
  | [] => some []
  | t :: rest => do return (← json? depth t) :: (← jsonItems? depth rest)

/-- The members of an object with their values. -/
def jsonMembers? (depth : Nat) : List (Option String × Tree) → Option (List (String × Json))
  | [] => some []
  | (name, t) :: rest => do return (← name, ← json? depth t) :: (← jsonMembers? depth rest)

end

end Tree

/-- How many containers may be nested in one another. -/
def maxDepth : Nat := 127

/-- The value of a form within the bound on the depth. -/
def ofTree? (t : Tree) : Option Json := t.json? maxDepth

/-- Reads a whole text as a value. -/
def ofText? (s : String) : Option Json := (Tree.ofText? s.toList).bind ofTree?

end PluginCatalog.Json
