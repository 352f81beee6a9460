import ValueSpec.Pattern.Syntax

/-!
# Matching patterns

A pattern is matched by trying its alternatives in order and going back where one leads nowhere.
What has to match after a pattern is handed to it as a function, so that going back is a matter of
trying the next way to call it. The answer is the first state in which everything has matched.
-/

namespace ValueSpec.Pattern

/-- A place in a text and what the groups have matched so far. -/
structure State where
  /-- The characters before the place, last first. -/
  before : List Char := []
  /-- The characters after the place. -/
  after : List Char
  /-- The number of characters before the place. -/
  place : Nat := 0
  /-- The places where groups began, latest first. -/
  starts : List (Nat × Nat) := []
  /-- The places where groups ended, latest first. -/
  ends : List (Nat × Nat) := []
  deriving Repr

/-- What has to match from a state on. -/
abbrev Rest := State → Option State

namespace State

/-- Pass over one character of a kind. -/
def step (s : State) (p : Char → Bool) : Option State :=
  match s.after with
  | [] => none
  | c :: rest =>
    if p c then some { s with before := c :: s.before, after := rest, place := s.place + 1 }
    else none

/-- Pass over a text whose characters are the same as the next ones. -/
def steps (s : State) (same : Char → Char → Bool) : List Char → Option State
  | [] => some s
  | c :: cs => (s.step (same c)).bind fun s => s.steps same cs

def back (s : State) : Nat → Option State
  | 0 => some s
  | n + 1 =>
    match s.before with
    | [] => none
    | c :: cs => { s with before := cs, after := c :: s.after, place := s.place - 1 }.back n

def openGroup (s : State) (index : Nat) : State :=
  { s with starts := (index, s.place) :: s.starts }

def closeGroup (s : State) (index : Nat) : State :=
  { s with ends := (index, s.place) :: s.ends }

/-- Where a group began and ended when it matched last. -/
def span? (s : State) (index : Nat) : Option (Nat × Nat) := do
  let first ← s.starts.lookup index
  let last ← s.ends.lookup index
  if first ≤ last then return (first, last) else none

def groupText? (s : State) (index : Nat) : Option (List Char) := do
  let (first, last) ← s.span? index
  return ((s.before.reverse ++ s.after).drop first).take (last - first)

/-- The place of one state with the groups of another. -/
def withGroups (s t : State) : State := { s with starts := t.starts, ends := t.ends }

end State

def Anchor.holds (s : State) : Anchor → Bool
  | textStart => s.before.isEmpty
  | textEnd => s.after.isEmpty
  | lineStart => s.before.isEmpty || s.before.head? = some '\n'
  | lineEnd => s.after.isEmpty || s.after.head? = some '\n'
  | lastLineEnd => s.after.isEmpty || s.after = ['\n']
  | wordEdge negated asciiOnly =>
    let isWord (c : Option Char) : Bool := c.any (CharClass.word.holds asciiOnly)
    !(s.before.isEmpty && s.after.isEmpty) &&
      (isWord s.before.head? != isWord s.after.head?) != negated

/-! ### Repetition -/

def exactly (m : State → Rest → Option State) : Nat → State → Rest → Option State
  | 0, s, k => k s
  | n + 1, s, k => m s fun t => exactly m n t k

/-- Match something as often as possible, at most `most` times, and then less often. A repetition
that goes nowhere is the last one. -/
def greedily (m : State → Rest → Option State) :
    Nat → (most : Option Nat) → State → Rest → Option State
  | 0, _, s, k => k s
  | fuel + 1, most, s, k =>
    if most = some 0 then k s
    else
      match m s fun t =>
        if t.place = s.place then k t else greedily m fuel (most.map (· - 1)) t k with
      | some t => some t
      | none => k s

/-- Match something as seldom as possible, and then more often, at most `most` times. -/
def reluctantly (m : State → Rest → Option State) :
    Nat → (most : Option Nat) → State → Rest → Option State
  | 0, _, s, k => k s
  | fuel + 1, most, s, k =>
    match k s with
    | some t => some t
    | none =>
      if most = some 0 then none
      else
        m s fun t => if t.place = s.place then k t else reluctantly m fuel (most.map (· - 1)) t k

/-- Match something as often as possible, at most `most` times, each time in its first way. -/
def possessively (m : State → Rest → Option State) :
    Nat → (most : Option Nat) → State → State
  | 0, _, s => s
  | fuel + 1, most, s =>
    if most = some 0 then s
    else
      match m s some with
      | none => s
      | some t => if t.place = s.place then t else possessively m fuel (most.map (· - 1)) t

/-- Match something exactly `n` times, each time in its first way. -/
def exactlyFirst (m : State → Rest → Option State) : Nat → State → Option State
  | 0, s => some s
  | n + 1, s => (m s some).bind fun t => exactlyFirst m n t

/-! ### Patterns -/

/-- Match a pattern and then the rest. -/
def Regex.run : Regex → State → Rest → Option State
  | empty, s, k => k s
  | any newlineToo, s, k => (s.step fun c => newlineToo || c ≠ '\n').bind k
  | literal negated p rule, s, k => (s.step fun c => rule.same c.toNat p != negated).bind k
  | set negated items rule, s, k => (s.step (inSet rule negated items)).bind k
  | anchor a, s, k => if a.holds s then k s else none
  | seq r₁ r₂, s, k => r₁.run s fun t => r₂.run t k
  | alt r₁ r₂, s, k =>
    match r₁.run s k with
    | some t => some t
    | none => r₂.run s k
  | loop greed least most r, s, k =>
    let more := most.map (· - least)
    let fuel (t : State) : Nat := t.after.length + 2
    match greed with
    | .greedy => exactly r.run least s fun t => greedily r.run (fuel t) more t k
    | .reluctant => exactly r.run least s fun t => reluctantly r.run (fuel t) more t k
    | .possessive =>
      (exactlyFirst r.run least s).bind fun t => k (possessively r.run (fuel t) more t)
  | group i r, s, k => r.run (s.openGroup i) fun t => k (t.closeGroup i)
  | backref i rule, s, k =>
    let same (c d : Char) : Bool := rule.lower c.toNat = rule.lower d.toNat
    ((s.groupText? i).bind (s.steps same)).bind k
  | conditional i yes no, s, k => if (s.span? i).isSome then yes.run s k else no.run s k
  | lookahead negated r, s, k =>
    match r.run s some, negated with
    | some t, false => k (s.withGroups t)
    | none, true => k s
    | _, _ => none
  | lookbehind width negated r, s, k =>
    match (s.back width.least).bind fun t => r.run t some, negated with
    | some t, false => k (s.withGroups t)
    | none, true => k s
    | _, _ => none
  | atomic r, s, k => (r.run s some).bind k

/-- Does a pattern match from some place on, the first or a later one? -/
def Regex.searchFrom (r : Regex) (before : List Char) (place : Nat) (after : List Char) : Bool :=
  (r.run { before, after, place } some).isSome ||
    match after with
    | [] => false
    | c :: rest => r.searchFrom (c :: before) (place + 1) rest

def Regex.matchesIn (r : Regex) (text : List Char) : Bool := r.searchFrom [] 0 text

end ValueSpec.Pattern
