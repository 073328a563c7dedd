import PluginCatalog.Json.Printer

/-!
# Property values

A property of a plugin is a truth value, a number, a text or a list of texts; `absent` is what the
lookup of a missing property gives. Values are exchanged with JSON in two ways. `Value.ofJson?`
accepts every JSON value but `null` and keeps what has no counterpart as JSON text;
`Value.decode?` accepts exactly the JSON values that are one of the five kinds.
-/

namespace PluginCatalog

/-- The value of a property. -/
inductive Value where
  /-- No value. -/
  | absent
  | bool (b : Bool)
  | number (x : Binary64)
  | text (s : String)
  | list (items : List String)
  deriving DecidableEq

namespace Value

instance : Inhabited Value := ⟨absent⟩

/-- The name of a kind of values in messages. -/
def kindName : Value → String
  | absent => "absent"
  | bool _ => "bool"
  | number _ => "number"
  | text _ => "string"
  | list _ => "string list"

/-- Whether there is no value. -/
def isAbsent : Value → Bool
  | absent => true
  | _ => false

/-- The truth value, if it is one. -/
def bool? : Value → Option Bool
  | bool b => some b
  | _ => none

/-- The number, if it is one. -/
def number? : Value → Option Binary64
  | number x => some x
  | _ => none

/-- The text, if it is one. -/
def text? : Value → Option String
  | text s => some s
  | _ => none

/-- The list of texts, if it is one. -/
def list? : Value → Option (List String)
  | list items => some items
  | _ => none

/-- Whether two values are equal; numbers are by their value, so `nan` differs from itself. -/
def same : Value → Value → Bool
  | number x, number y => x.sameValue y
  | v, w => v = w

/-- An item of a JSON array as a text: a string as it is, any other value as JSON text. -/
def itemText : Json → String
  | .string s => s
  | j => j.text

/-- The value that keeps a JSON value: `null` has none, and an object is kept as JSON text. -/
def ofJson? : Json → Option Value
  | .null => none
  | .bool b => some (bool b)
  | .number n => some (number n.toBinary64)
  | .string s => some (text s)
  | .array items => some (list (items.map itemText))
  | .object members => some (text (Json.object members).text)

/-- The string that a JSON value is. -/
def string? : Json → Option String
  | .string s => some s
  | _ => none

/-- The value that a JSON value is: `null` is the absent one, and the items of an array have to be
strings. An object is none. -/
def decode? : Json → Option Value
  | .null => some absent
  | .bool b => some (bool b)
  | .number n => some (number n.toBinary64)
  | .string s => some (text s)
  | .array items => (items.mapM string?).map list
  | .object _ => none

/-- A value as a JSON value. -/
def toJson : Value → Json
  | absent => .null
  | bool b => .bool b
  | number x => .ofBinary64 x
  | text s => .string s
  | list items => .strings items

end Value

end PluginCatalog
