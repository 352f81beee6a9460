import ValueSpec.Pattern.CharSet

namespace ValueSpec.Pattern

inductive Anchor
  /-- The beginning of the text. -/
  | textStart
  /-- The end of the text. -/
  | textEnd
  /-- The beginning of the text or of a line. -/
  | lineStart
  /-- The end of the text or of a line. -/
  | lineEnd
  /-- The end of the text, or the place before a newline that ends it. -/
  | lastLineEnd
  /-- Between a character of a word and another one. -/
  | wordEdge (negated asciiOnly : Bool)
  deriving DecidableEq, Repr

/-- In which order the counts of a repetition are tried. -/
inductive Greed
  /-- As many as possible first. -/
  | greedy
  /-- As few as possible first. -/
  | reluctant
  /-- As many as possible, and no fewer. -/
  | possessive
  deriving DecidableEq, Repr

/-- How many characters something can match. -/
structure Width where
  least : Nat
  /-- The greatest number, if there is one. -/
  most : Option Nat
  deriving DecidableEq, Repr

namespace Width

def exactly (n : Nat) : Width := ⟨n, some n⟩

def add (v w : Width) : Width :=
  ⟨v.least + w.least, do return (← v.most) + (← w.most)⟩

def join (v w : Width) : Width :=
  ⟨min v.least w.least, do return max (← v.most) (← w.most)⟩

/-- A thing from `least` to `most` times. -/
def repeated (w : Width) (least : Nat) (most : Option Nat) : Width :=
  ⟨w.least * least,
    if w.most = some 0 || most = some 0 then some 0 else do return (← w.most) * (← most)⟩

end Width

inductive Regex
  /-- Nothing. -/
  | empty
  /-- Any character, or any but a newline. -/
  | any (newlineToo : Bool)
  /-- One character, or any but one. -/
  | literal (negated : Bool) (point : Nat) (rule : CaseRule)
  /-- A character in a set, or one that is not. -/
  | set (negated : Bool) (items : List SetItem) (rule : CaseRule)
  | anchor (a : Anchor)
  | seq (first second : Regex)
  | alt (first second : Regex)
  | loop (greed : Greed) (least : Nat) (most : Option Nat) (body : Regex)
  | group (index : Nat) (body : Regex)
  /-- What a group has matched, once more. -/
  | backref (index : Nat) (rule : CaseRule)
  /-- One pattern if a group has matched, and another one if not. -/
  | conditional (index : Nat) (yes no : Regex)
  | lookahead (negated : Bool) (body : Regex)
  | lookbehind (width : Width) (negated : Bool) (body : Regex)
  /-- The first match of a pattern and no other. -/
  | atomic (body : Regex)
  deriving DecidableEq, Repr

end ValueSpec.Pattern
