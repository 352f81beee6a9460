import ValueSpec.Glyph
import ValueSpec.Text.Blank

/-!
# Splitting at commas

Arguments and lists of specs are separated by commas. A comma separates when it is not escaped and
when as many parentheses have been opened as closed, and as many braces. Segments are stripped of
blanks and blank segments are dropped. Arguments keep their escapes; specs have three of them
decoded.
-/

namespace ValueSpec

/-- How many brackets of each kind have been opened and not closed; closing may run ahead. -/
structure Balance where
  round : Int := 0
  curly : Int := 0
  deriving DecidableEq, Repr

namespace Balance

def zero : Balance := {}

def isEven (b : Balance) : Bool := b.round = 0 && b.curly = 0

/-- The balance after a glyph. -/
def step (b : Balance) : Glyph → Balance
  | .plain '(' => { b with round := b.round + 1 }
  | .plain ')' => { b with round := b.round - 1 }
  | .plain '\x7b' => { b with curly := b.curly + 1 }
  | .plain '\x7d' => { b with curly := b.curly - 1 }
  | _ => b

def run (b : Balance) (gs : List Glyph) : Balance := gs.foldl step b

end Balance

namespace Splitting

/-- Cut at every separating comma. There is one segment more than there are such commas. -/
def cut : Balance → List Glyph → List (List Glyph)
  | _, [] => [[]]
  | b, g :: rest =>
    if g = .plain ',' && b.isEven then [] :: cut b rest
    else
      match cut (b.step g) rest with
      | [] => [[g]]
      | segment :: segments => (g :: segment) :: segments

/-- The segments of a text, written out by `decode`, stripped and without the blank ones. -/
def segments (decode : Glyph → List Char) (s : String) : List String :=
  let stripped := (cut .zero (Glyph.ofString s)).map fun gs => Text.stripChars (gs.flatMap decode)
  stripped.filterMap fun cs => if cs.isEmpty then none else some (String.ofList cs)

theorem cut_ne_nil (b : Balance) (gs : List Glyph) : cut b gs ≠ [] := by
  cases gs with
  | nil => simp [cut]
  | cons g rest =>
    rw [cut]
    split
    · simp
    · split <;> simp

end Splitting

def splitArguments (s : String) : List String := Splitting.segments Glyph.chars s

/-- The characters that lose their backslash in a list of specs. -/
def specEscapes : List Char := [',', ':', '\\']

/-- The characters that lose their backslash in an argument that is a value. -/
def valueEscapes : List Char := [',', '\\']

def splitSpecs (s : String) : List String := Splitting.segments (Glyph.decode specEscapes) s

/-- An argument that is a value, with its commas and backslashes decoded. -/
def unescapeValue (s : String) : String :=
  String.ofList ((Glyph.ofString s).flatMap (Glyph.decode valueEscapes))

end ValueSpec
