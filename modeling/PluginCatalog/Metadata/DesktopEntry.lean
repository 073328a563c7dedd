import PluginCatalog.Property.Bag
import PluginCatalog.Text.Basic

/-!
# Desktop entries

A desktop entry file has groups of lines `key=value`, each group under a line with its name in
brackets. Only the group `Desktop Entry` is read. Blanks around lines, keys and values do not count;
empty lines, lines that begin with `#` and lines without `=` are skipped. Of several lines with one key
the last counts.
-/

namespace PluginCatalog.Metadata.DesktopEntry

/-- The name of the group that is read. -/
def groupName : List Char := "Desktop Entry".toList

/-- The name of a group in the line that begins it: all between a first `[` and a last `]`. -/
def groupOf? (line : List Char) : Option (List Char) :=
  match line with
  | '[' :: rest => if rest.getLast? = some ']' then some rest.dropLast else none
  | _ => none

/-- The key and the value in a line. -/
def entryOf? (line : List Char) : Option (String × Value) :=
  match line.dropWhile (· ≠ '=') with
  | _ :: value =>
    some (String.ofList (Text.trim (line.takeWhile (· ≠ '='))), .text (String.ofList (Text.trim value)))
  | [] => none

/-- The entries read so far, and whether the lines that follow belong to the group. -/
structure State where
  inGroup : Bool
  entries : Properties

/-- Takes a line without the blanks around it. -/
def State.take (s : State) (line : List Char) : State :=
  if line.isEmpty || line.head? = some '#' then s
  else
    match groupOf? line with
    | some group => { s with inGroup := group = groupName }
    | none =>
      if s.inGroup then
        match entryOf? line with
        | some (key, value) => { s with entries := s.entries.insert key value }
        | none => s
      else s

/-- The entries of the group `Desktop Entry`, each as a text. -/
def parse (text : String) : Properties :=
  (((Text.splitBy (· = '\n') text.toList).map Text.trim).foldl State.take ⟨false, .empty⟩).entries

end PluginCatalog.Metadata.DesktopEntry
