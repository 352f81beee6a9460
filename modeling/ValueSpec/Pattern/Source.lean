import ValueSpec.Fault
import ValueSpec.Glyph
import ValueSpec.Pattern.Error
import ValueSpec.Pattern.Syntax

/-!
# Reading patterns: the source

A pattern is read glyph by glyph from left to right. While this is done the groups that have been
opened are kept, with their names and, once they are closed, their widths. A backslash at the very
end is an error as soon as it comes next.
-/

namespace ValueSpec.Pattern

/-- The flags of a pattern or of a part of one. -/
structure Flags where
  ignoreCase : Bool := false
  multiline : Bool := false
  dotAll : Bool := false
  verbose : Bool := false
  ascii : Bool := false
  unicode : Bool := false
  template : Bool := false
  deriving DecidableEq, Repr

namespace Flags

def union (f g : Flags) : Flags where
  ignoreCase := f.ignoreCase || g.ignoreCase
  multiline := f.multiline || g.multiline
  dotAll := f.dotAll || g.dotAll
  verbose := f.verbose || g.verbose
  ascii := f.ascii || g.ascii
  unicode := f.unicode || g.unicode
  template := f.template || g.template

def overlap (f g : Flags) : Bool :=
  (f.ignoreCase && g.ignoreCase) || (f.multiline && g.multiline) || (f.dotAll && g.dotAll) ||
    (f.verbose && g.verbose) || (f.ascii && g.ascii) || (f.unicode && g.unicode) ||
    (f.template && g.template)

def within (f on off : Flags) : Flags where
  ignoreCase := (f.ignoreCase || on.ignoreCase) && !off.ignoreCase
  multiline := (f.multiline || on.multiline) && !off.multiline
  dotAll := (f.dotAll || on.dotAll) && !off.dotAll
  verbose := (f.verbose || on.verbose) && !off.verbose
  ascii := if on.ascii || on.unicode then on.ascii else f.ascii
  unicode := if on.ascii || on.unicode then on.unicode else f.unicode
  template := f.template

/-- The flag with a given letter. The letter `L` is one too, but it is not allowed. -/
def ofLetter? : Char → Option Flags
  | 'i' => some { ignoreCase := true }
  | 'm' => some { multiline := true }
  | 's' => some { dotAll := true }
  | 'x' => some { verbose := true }
  | 'a' => some { ascii := true }
  | 'u' => some { unicode := true }
  | 't' => some { template := true }
  | 'L' => some {}
  | _ => none

def rule (f : Flags) : CaseRule :=
  if f.ignoreCase then (if f.ascii then .ascii else .unicode) else .exact

end Flags

/-- What stops the reading of a pattern. -/
inductive Failure
  | flaw (e : Error)
  | fault (f : Fault)
  deriving DecidableEq, Repr

/-- The unread part of a pattern and what has been learnt from the part that was read. -/
structure Source where
  /-- The glyphs to be read. -/
  ahead : List Glyph
  /-- The number of characters before them. -/
  place : Nat := 0
  /-- The flags of the whole pattern. -/
  flags : Flags := {}
  /-- The names of groups. -/
  names : List (String × Nat) := []
  /-- The widths of the groups in order; a group that is open has none yet. -/
  widths : List (Option Width) := []
  /-- Inside a look behind, the number of groups before it, with the whole match counted as one. -/
  behind : Option Nat := none
  /-- The groups that conditionals ask for, with the places where they do so first. -/
  asked : List (Nat × Nat) := []
  deriving Repr

/-- A step of reading. -/
abbrev Read := StateT Source (Except Failure)

/-- Stop with a flaw at a place. -/
def failAt {α : Type} (place : Nat) (flaw : Flaw) : Read α :=
  throw (.flaw ⟨flaw, some place⟩)

/-- Stop with a flaw some characters before the next glyph. -/
def failBack {α : Type} (back : Nat) (flaw : Flaw) : Read α := do
  failAt ((← get).place - back) flaw

def failWith {α : Type} (f : Fault) : Read α := throw (.fault f)

namespace Source

/-- The number of groups, with the whole match counted as one. -/
def groupCount (s : Source) : Nat := s.widths.length + 1

def groupWidth? (s : Source) (index : Nat) : Option Width :=
  if index = 0 then none else (s.widths[index - 1]?).join

/-- The source after `n` more glyphs. -/
def after (s : Source) (n : Nat) : Source :=
  { s with
    ahead := s.ahead.drop n
    place := s.place + (Glyph.toChars (s.ahead.take n)).length }

/-- The place of a backslash that ends the pattern among the next `n` glyphs. -/
def danglingAt? (s : Source) (n : Nat) : Option Nat :=
  if (s.ahead.take n).contains .dangling then
    some (s.place + (Glyph.toChars s.ahead).length - 1)
  else none

end Source

def skip (n : Nat) : Read Unit := do
  let s ← get
  match s.danglingAt? (n + 1) with
  | some place => failAt place .danglingEscape
  | none => set (s.after n)

def peek : Read (Option Glyph) := return (← get).ahead.head?

def tell : Read Nat := return (← get).place

def take : Read (Option Glyph) := do
  let g ← peek
  skip 1
  return g

def accept (c : Char) : Read Bool := do
  if (← peek) = some (.plain c) then
    skip 1
    return true
  else return false

/-- The character of a glyph that is not escaped. -/
def plain? : Glyph → Option Char
  | .plain c => some c
  | _ => none

/-- Pass over the characters of a kind that come next, at most `limit` of them. -/
def takeWhile (limit : Nat) (p : Char → Bool) : Read (List Char) := do
  let cs := ((← get).ahead.take limit).map plain? |>.takeWhile (·.any p) |>.filterMap id
  skip cs.length
  return cs

/-- Pass over everything before a character, and over this character. `none` if it does not come.
-/
def takeThrough? (close : Char) : Read (Option (List Char)) := do
  let gs := (← get).ahead
  let before := gs.takeWhile (· ≠ .plain close)
  if before.length < gs.length then
    skip (before.length + 1)
    return some (Glyph.toChars before)
  else
    skip gs.length
    return none

/-- Pass over a name and the character that closes it. -/
def takeName (close : Char) (what : String) : Read String := do
  let start ← tell
  match ← takeThrough? close with
  | some [] => failAt start (.missingName what)
  | some name => return String.ofList name
  | none =>
    if (← tell) = start then failAt start (.missingName what)
    else failAt start (.unterminatedName close)

/-! ### Groups -/

/-- Refuse a reference to a group that is open, or that was opened in the same look behind. -/
def checkLookbehind (index : Nat) : Read Unit := do
  let s ← get
  match s.behind with
  | none => return
  | some before =>
    if (s.groupWidth? index).isNone then failBack 0 .openGroup
    else if before ≤ index then failBack 0 .groupInSameLookbehind
    else return

def openGroup (name : Option String) : Read Nat := do
  let s ← get
  let index := s.groupCount
  match name with
  | none => set { s with widths := s.widths ++ [none] }
  | some name =>
    match s.names.lookup name with
    | some earlier => failBack (name.length + 1) (.groupRedefined name index earlier)
    | none =>
      set { s with widths := s.widths ++ [none], names := s.names ++ [(name, index)] }
  return index

def closeGroup (index : Nat) (width : Width) : Read Unit :=
  modify fun s => { s with widths := s.widths.set (index - 1) (some width) }

/-- The width of a pattern, from the widths of the groups. -/
def Regex.width (groupWidth : Nat → Width) : Regex → Width
  | empty | anchor _ | lookahead _ _ | lookbehind _ _ _ => .exactly 0
  | any _ | literal _ _ _ | set _ _ _ => .exactly 1
  | seq r s => (r.width groupWidth).add (s.width groupWidth)
  | alt r s => (r.width groupWidth).join (s.width groupWidth)
  | loop _ least most r => (r.width groupWidth).repeated least most
  | group _ r | atomic r => r.width groupWidth
  | backref i _ => groupWidth i
  | conditional _ yes no => (yes.width groupWidth).join (no.width groupWidth)

/-- The width of a pattern in the place where it has been read. -/
def widthHere (r : Regex) : Read Width := do
  let s ← get
  return r.width fun i => (s.groupWidth? i).getD (.exactly 0)

end ValueSpec.Pattern
