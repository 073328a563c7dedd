import PluginCatalog.Constraint.Evaluation
import PluginCatalog.Locale.Environment
import PluginCatalog.Record.Views

/-!
# Reading records

What a record says at a moment: its titles and properties as they are in the environment, the outcome
of constraints, and the two forms in which it is written (`Record.read`). Only a text that each reading
translates looks at the locale of the environment (`DisplayText.current`).
-/

namespace PluginCatalog

/-- The text at the moment: a fixed one, or the translation to the current locale. -/
def DisplayText.current (env : Environment) : DisplayText → String
  | frozen text => text
  | translatable table => table.resolve env.locale

/-- What is read of a record. -/
structure Reading where
  /-- The name at the moment. -/
  name : String
  /-- The description at the moment. -/
  comment : String
  /-- The name in a given locale. -/
  nameIn : String → String
  /-- The description in a given locale. -/
  commentIn : String → String
  /-- The properties, as constraints see them at the moment. -/
  property : String → Value
  /-- The outcomes of constraints at the moment. -/
  outcome : Constraint → Constraint.Outcome
  /-- The record as flat metadata. -/
  properties : Properties
  /-- The record as a structured document. -/
  document : Json

/-- What is read of a record in an environment. -/
def Record.read (r : Record) (env : Environment) : Reading where
  name := r.titles.name.current env
  comment := r.titles.comment.current env
  nameIn := r.name
  commentIn := r.comment
  property := r.lookup env.locale
  outcome c := c.evaluate (r.lookup env.locale)
  properties := r.toProperties
  document := r.toJson

end PluginCatalog
