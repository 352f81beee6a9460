import ValueSpec.Glyph

/-!
# Strict ends

A dollar sign in a pattern matches at the end of the text, and also before a newline that ends the
text. Here it is given its strict meaning, the very end, by writing the escape `\Z` in its place. A
dollar sign that is escaped or a member of a set stands for itself and is kept.
-/

namespace ValueSpec.Pattern

/-- Where a place is with respect to sets. -/
inductive SetPlace
  | outside
  /-- Before the first member of a set; carets do not count. -/
  | first
  | inside
  deriving DecidableEq, Repr

def SetPlace.after : SetPlace → Glyph → SetPlace
  | outside, g => if g = .plain '[' then first else outside
  | first, g => if g = .plain '^' then first else inside
  | inside, g => if g = .plain ']' then outside else inside

/-- How a glyph is written when ends are strict. -/
def strictGlyph (p : SetPlace) (g : Glyph) : List Char :=
  if p = .outside && g = .plain '$' then ['\\', 'Z'] else g.chars

def strictGlyphs : SetPlace → List Glyph → List Char
  | _, [] => []
  | p, g :: rest => strictGlyph p g ++ strictGlyphs (p.after g) rest

def strictEnd (pattern : String) : String :=
  String.ofList (strictGlyphs .outside (Glyph.ofString pattern))

@[simp] theorem strictGlyphs_nil (p : SetPlace) : strictGlyphs p [] = [] := rfl

@[simp] theorem strictGlyphs_cons (p : SetPlace) (g : Glyph) (rest : List Glyph) :
    strictGlyphs p (g :: rest) = strictGlyph p g ++ strictGlyphs (p.after g) rest := rfl

end ValueSpec.Pattern
