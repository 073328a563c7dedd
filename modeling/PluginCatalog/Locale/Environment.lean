import PluginCatalog.Dict

/-!
# The environment

What a run reads from its surroundings besides files: the locale that the application has chosen, if
any, and the environment variables. The current locale is the chosen one, else the first of `LC_ALL`,
`LC_MESSAGES` and `LANG` that is set to a text, else `C`.
-/

namespace PluginCatalog

/-- The surroundings of a run. -/
structure Environment where
  /-- The locale that the application has chosen. -/
  chosenLocale : Option String
  /-- The values of the variables that are set. -/
  values : Dict String
  deriving DecidableEq

namespace Environment

/-- Surroundings in which nothing is set. -/
def bare : Environment := ⟨none, .empty⟩

instance : Inhabited Environment := ⟨bare⟩

/-- Chooses a locale over the environment variables. -/
def chooseLocale (env : Environment) (tag : String) : Environment :=
  { env with chosenLocale := some tag }

/-- Leaves the locale to the environment variables. -/
def clearLocale (env : Environment) : Environment := { env with chosenLocale := none }

/-- Sets a variable, or removes it. -/
def setVariable (env : Environment) (name : String) (value : Option String) : Environment :=
  match value with
  | some value => { env with values := env.values.insert name value }
  | none => { env with values := env.values.erase name }

/-- The variables that name a locale, by precedence. -/
def localeVariables : List String := ["LC_ALL", "LC_MESSAGES", "LANG"]

/-- The current locale. -/
def locale (env : Environment) : String :=
  env.chosenLocale.getD <|
    ((localeVariables.filterMap env.values.get?).find? fun value => !value.isEmpty).getD "C"

end Environment

end PluginCatalog
