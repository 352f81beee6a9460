/-!
# Glyphs

A backslash takes the meaning away from the character after it. Every scanner of the library reads
a text as glyphs: plain characters, escaped characters, and possibly a backslash at the very end
that escapes nothing. So there is one notion of what is escaped, and it is this one.
-/

namespace ValueSpec

/-- A unit of text with escapes. -/
inductive Glyph
  /-- A character with its usual meaning; never a backslash. -/
  | plain (c : Char)
  /-- A backslash and the character after it. -/
  | escaped (c : Char)
  /-- A backslash at the end of the text. -/
  | dangling
  deriving DecidableEq, Repr

namespace Glyph

def chars : Glyph → List Char
  | plain c => [c]
  | escaped c => ['\\', c]
  | dangling => ['\\']

def width : Glyph → Nat
  | plain _ => 1
  | escaped _ => 2
  | dangling => 1

/-- Read a text as glyphs. -/
def ofChars : List Char → List Glyph
  | [] => []
  | [c] => if c = '\\' then [dangling] else [plain c]
  | c :: d :: rest =>
    if c = '\\' then escaped d :: ofChars rest else plain c :: ofChars (d :: rest)

def ofString (s : String) : List Glyph := ofChars s.toList

def toChars (gs : List Glyph) : List Char := gs.flatMap chars

/-- The text in which the characters of `decoded` have lost their backslash. -/
def decode (decoded : List Char) : Glyph → List Char
  | plain c => [c]
  | escaped c => if decoded.contains c then [c] else ['\\', c]
  | dangling => ['\\']

/-- Does the target stand unescaped at the beginning of the glyph? -/
def startsWith (target : Char) : Glyph → Bool
  | plain c => c = target
  | escaped _ => target = '\\'
  | dangling => target = '\\'

/-- The number of characters before the first glyph that starts with the target. -/
def indexOf? (target : Char) : List Glyph → Option Nat
  | [] => none
  | g :: rest =>
    if g.startsWith target then some 0 else (indexOf? target rest).map (· + g.width)

@[simp] theorem ofChars_nil : ofChars [] = [] := rfl

@[simp] theorem toChars_nil : toChars [] = [] := rfl

@[simp] theorem toChars_cons (g : Glyph) (gs : List Glyph) :
    toChars (g :: gs) = g.chars ++ toChars gs := by
  simp [toChars]

@[simp] theorem length_chars (g : Glyph) : g.chars.length = g.width := by
  cases g <;> rfl

/-- Reading loses nothing. -/
@[simp] theorem toChars_ofChars (cs : List Char) : toChars (ofChars cs) = cs := by
  fun_induction ofChars cs <;> simp_all [chars]

end Glyph

/-- The index of the first character that is the target and is not escaped. -/
def findUnescaped? (s : String) (target : Char) : Option Nat :=
  Glyph.indexOf? target (Glyph.ofString s)

end ValueSpec
