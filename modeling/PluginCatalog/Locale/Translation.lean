import PluginCatalog.Dict
import PluginCatalog.Text.Basic

/-!
# Translations

A locale tag names a language, optionally with a region, as in `de` and `de_AT`. `Tag.normalize?` brings
the spellings of a tag to one: an encoding or modifier, from the first `.` or `@` on, is cut off, blanks
around the rest are dropped, and `-` separates like `_`. The tags of the untranslated locale (`C`,
`POSIX` and the empty one) normalize to none.

A table holds the translations of one text by normalized tag, beside the untranslated text. For a
locale it gives the translation of its tag, else that of its language, else the untranslated text.
-/

namespace PluginCatalog

namespace Tag

/-- Whether a character begins the encoding or the modifier of a tag. -/
def endsTag (c : Char) : Bool := c = '.' || c = '@'

/-- A tag without encoding, modifier and surrounding blanks. -/
def base (tag : List Char) : List Char := Text.trim (tag.takeWhile fun c => !endsTag c)

/-- Whether a base names the untranslated locale. -/
def isUntranslated (base : List Char) : Bool :=
  base = [] || base = ['C'] || base = ['P', 'O', 'S', 'I', 'X']

/-- The one spelling of a separator. -/
def separator (c : Char) : Char := if c = '-' then '_' else c

/-- The normal form of a tag, none for the untranslated locale. -/
def normalize? (tag : String) : Option String :=
  let base := base tag.toList
  if isUntranslated base then none else some (String.ofList (base.map separator))

/-- The language of a normalized tag: the part before the first `_`. -/
def language (tag : String) : String := String.ofList (tag.toList.takeWhile (· ≠ '_'))

end Tag

/-- The translations of one text. -/
structure TranslationTable where
  /-- The untranslated text. -/
  default : String
  /-- The translated texts by normalized tag. -/
  translations : Dict String
  deriving DecidableEq

namespace TranslationTable

/-- The table of a text without translations. -/
def ofText (text : String) : TranslationTable := ⟨text, .empty⟩

instance : Inhabited TranslationTable := ⟨ofText ""⟩

/-- Adds a translation, in place of an earlier one with the same normalized tag. A tag of the
untranslated locale adds nothing. -/
def withTranslation (t : TranslationTable) (tag text : String) : TranslationTable :=
  match Tag.normalize? tag with
  | some tag => { t with translations := t.translations.insert tag text }
  | none => t

/-- Whether a table has no text at all. -/
def isEmpty (t : TranslationTable) : Bool := t.default.isEmpty && t.translations.isEmpty

/-- The text for a locale. -/
def resolve (t : TranslationTable) (locale : String) : String :=
  match Tag.normalize? locale with
  | none => t.default
  | some tag =>
    ((t.translations.get? tag).or (t.translations.get? (Tag.language tag))).getD t.default

end TranslationTable

end PluginCatalog
