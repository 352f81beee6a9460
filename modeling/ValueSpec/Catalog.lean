import ValueSpec.Code
import ValueSpec.Fault
import ValueSpec.Params
import ValueSpec.Template
import ValueSpec.Text.Case

namespace ValueSpec

/-- The templates of a locale. -/
structure Catalog where
  locale : String := "en"
  templates : List (Code × String) := []
  /-- How many characters of an offending value are shown; a negative number says how many are
  taken off its end. -/
  previewChars : Int := 50
  deriving DecidableEq, Repr

namespace Catalog

def english : Catalog := { templates := Code.all.map fun c => (c, c.english) }

/-- The template of a code: the catalog's own, or the English one. -/
def template (cat : Catalog) (c : Code) : String := (cat.templates.lookup c).getD c.english

/-- The first characters of a text: `n` of them, or all but the last `-n`. -/
def cut (n : Int) (cs : List Char) : List Char :=
  match n with
  | .ofNat n => cs.take n
  | .negSucc n => cs.take (cs.length - (n + 1))

/-- A text cut to the preview, with dots in the place of what is missing. -/
def preview (cat : Catalog) (text : String) : String :=
  if cat.previewChars < text.length then
    String.ofList (cut cat.previewChars text.toList) ++ "..."
  else text

/-- The text of a parameter in a message. -/
def paramText (cat : Catalog) (name : String) (v : Value) : String :=
  if name = "value" then cat.preview v.message else v.message

/-- The text of a name in a message: that of its parameter, or the name in braces. -/
def nameText (cat : Catalog) (params : Params) (name : List Char) : List Char :=
  match params.get? (String.ofList name) with
  | some v => (cat.paramText (String.ofList name) v).toList
  | none => '\x7b' :: (name ++ ['\x7d'])

/-- The message of a code with its parameters. All of them are turned into text first, also those
that the template does not name. -/
def format (cat : Catalog) (c : Code) (params : Params) : Except Fault String :=
  if params.integers.all Integer.isShort then
    ((Template.render (cat.nameText params) (cat.template c).toList).mapError .template).map
      String.ofList
  else .error .tooLongToWrite

/-! ### The table of catalogs -/

/-- Catalogs by the key of their locale. -/
abbrev Table := Record Catalog

namespace Table

def initial : Table := [("en", english)]

/-- The key of a locale: without blanks around it, in lower case, with hyphens. -/
def key (locale : String) : String := (Text.lower (Text.strip locale)).map fun c =>
  if c = '_' then '-' else c

def language (key : String) : String := String.ofList (key.toList.takeWhile (· ≠ '-'))

def register (t : Table) (cat : Catalog) : Table := t.set (key cat.locale) cat

/-- The catalog of a locale or of its language, if the table has one. -/
def find? (t : Table) (locale : String) : Option Catalog :=
  t.get? (key locale) <|> t.get? (language (key locale))

/-- The catalog of a locale, of its language, or the English one. -/
def find (t : Table) (locale : String) : Catalog := (t.find? locale).getD english

end Table

end Catalog

end ValueSpec
