import PluginCatalog.Json.Tree

/-!
# Decoding JSON texts with a fixed form

A document with a fixed form is decoded from the form of its text, where nothing has been lost yet: an
object with fixed members may name each of them once, and members with other names are skipped
whatever they hold. The same document may also be given as an array with the members' values in order.
-/

namespace PluginCatalog.Json.Tree

/-- The members of an object with their names, none if a name is no text. -/
def namedMembers? : List (Option String × Tree) → Option (List (String × Tree))
  | [] => some []
  | (name, t) :: rest => do return (← name, t) :: (← namedMembers? rest)

/-- The only value under a name: none inside if there is none, and a failure if there are several. -/
def only? (name : String) (members : List (String × Tree)) : Option (Option Tree) :=
  match members.filter fun m => m.1 = name with
  | [] => some none
  | [m] => some (some m.2)
  | _ :: _ :: _ => none

/-- The values of an array in their places among `n`, none inside for those that are missing. -/
def places? (items : List Tree) (n : Nat) : Option (List (Option Tree)) :=
  if n < items.length then none
  else some (items.map some ++ List.replicate (n - items.length) none)

/-- The values of the members of a document with a fixed form, in the order of their names. -/
def fixedMembers? (names : List String) : Tree → Option (List (Option Tree))
  | object members => do
    let members ← namedMembers? members
    names.mapM (only? · members)
  | array items => places? items names.length
  | _ => none

/-- The text that a form is. -/
def text? : Tree → Option String
  | string s => s
  | _ => none

/-- The texts in an array. -/
def texts? : Tree → Option (List String)
  | array items => items.mapM text?
  | _ => none

/-- A member that may be missing: its default, or what it is decoded as. -/
def orDefault {α : Type} (default : α) (decode? : Tree → Option α) : Option Tree → Option α
  | none => some default
  | some t => decode? t

/-- A member that may be missing or `null`. -/
def optional {α : Type} (decode? : Tree → Option α) : Option Tree → Option (Option α)
  | none | some null => some none
  | some t => (decode? t).map some

end PluginCatalog.Json.Tree
