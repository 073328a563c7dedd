import PluginCatalog.Locale.Environment

/-!
# Changes of the locale

What names the current locale changes in steps: the application chooses one or leaves it to the
variables, and a variable is set or removed (`LocaleStep`). A step changes one thing and leaves the
others alone, so after a run of steps each thing is what the last step that concerns it made of it, and
so is the current locale (`Environment.locale_run`).
-/

namespace PluginCatalog

/-- A change of what names the current locale. -/
inductive LocaleStep where
  /-- The application chooses a locale. -/
  | choose (tag : String)
  /-- The application leaves the locale to the variables. -/
  | clear
  /-- A variable is set, or removed. -/
  | assign (name : String) (value : Option String)

namespace LocaleStep

/-- What a step makes of the choice of the application, if it concerns it. -/
def choice? : LocaleStep → Option (Option String)
  | choose tag => some (some tag)
  | clear => some none
  | assign _ _ => none

/-- What a step makes of a variable, if it concerns it. -/
def value? (name : String) : LocaleStep → Option (Option String)
  | assign assigned value => if name = assigned then some value else none
  | choose _ => none
  | clear => none

end LocaleStep

namespace Environment

/-- The surroundings after a step. -/
def step (env : Environment) : LocaleStep → Environment
  | .choose tag => env.chooseLocale tag
  | .clear => env.clearLocale
  | .assign name value => env.setVariable name value

/-- The surroundings after several steps, one after another. -/
def run (env : Environment) (steps : List LocaleStep) : Environment := steps.foldl step env

variable (env : Environment)

/-- The choice of the application is what the last step that concerns it made of it. -/
def choiceAfter (steps : List LocaleStep) : Option String :=
  (steps.reverse.findSome? LocaleStep.choice?).getD env.chosenLocale

/-- A variable is what the last step that concerns it made of it. -/
def valueAfter (steps : List LocaleStep) (name : String) : Option String :=
  (steps.reverse.findSome? (LocaleStep.value? name)).getD (env.values.get? name)

/-- The locale that steps leave, as their last ones name it. -/
def localeAfter (steps : List LocaleStep) : String :=
  (env.choiceAfter steps).getD <|
    ((localeVariables.filterMap (env.valueAfter steps)).find? fun value => !value.isEmpty).getD "C"

/-! ## One step -/

/-- A step changes the choice of the application only if it concerns it. -/
theorem chosenLocale_step (s : LocaleStep) :
    (env.step s).chosenLocale = s.choice?.getD env.chosenLocale := by
  cases s with
  | choose tag => rfl
  | clear => rfl
  | assign name value => cases value <;> rfl

/-- A step changes a variable only if it concerns it. -/
theorem get?_values_step (s : LocaleStep) (name : String) :
    (env.step s).values.get? name = (s.value? name).getD (env.values.get? name) := by
  cases s with
  | choose tag => rfl
  | clear => rfl
  | assign assigned value =>
    cases value with
    | none => by_cases h : name = assigned <;> simp [step, setVariable, LocaleStep.value?, h]
    | some text => by_cases h : name = assigned <;> simp [step, setVariable, LocaleStep.value?, h]

/-! ## A run -/

/-- What the last of some steps makes of something, by the first of them and the others. -/
theorem findSome?_reverse_cons {α : Type} (f : LocaleStep → Option α) (s : LocaleStep)
    (steps : List LocaleStep) (a : α) :
    ((s :: steps).reverse.findSome? f).getD a
      = (steps.reverse.findSome? f).getD ((f s).getD a) := by
  rw [List.reverse_cons, List.findSome?_append]
  cases steps.reverse.findSome? f with
  | some b => rfl
  | none => cases hs : f s <;> simp [hs]

/-- A run leaves the choice of the application that its last steps make. -/
theorem chosenLocale_run (steps : List LocaleStep) :
    (env.run steps).chosenLocale = env.choiceAfter steps := by
  -- The first step makes the surroundings that the others start from, so `env` is general.
  induction steps generalizing env with
  | nil => rfl
  | cons s steps ih =>
    calc (env.run (s :: steps)).chosenLocale
        = (env.step s).choiceAfter steps := ih (env.step s)
      _ = env.choiceAfter (s :: steps) := by
        rw [choiceAfter, chosenLocale_step, choiceAfter, findSome?_reverse_cons]

/-- A run leaves the variables as its last steps make them. -/
theorem get?_values_run (steps : List LocaleStep) (name : String) :
    (env.run steps).values.get? name = env.valueAfter steps name := by
  induction steps generalizing env with
  | nil => rfl
  | cons s steps ih =>
    calc (env.run (s :: steps)).values.get? name
        = (env.step s).valueAfter steps name := ih (env.step s)
      _ = env.valueAfter (s :: steps) name := by
        rw [valueAfter, get?_values_step, valueAfter, findSome?_reverse_cons]

/-- The current locale after a run is the one that its last steps name. -/
theorem locale_run (steps : List LocaleStep) :
    (env.run steps).locale = env.localeAfter steps := by
  have hvalues : (env.run steps).values.get? = env.valueAfter steps :=
    funext fun name => env.get?_values_run steps name
  rw [locale, localeAfter, chosenLocale_run, hvalues]

end Environment

end PluginCatalog
