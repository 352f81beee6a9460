import ValueSpec.Number.Integer
import ValueSpec.Pattern.Source
import ValueSpec.Text.CharacterName
import ValueSpec.Text.Name

namespace ValueSpec.Pattern

/-! ### Escapes -/

def isHexDigit (c : Char) : Bool :=
  c.isDigit || ('a' ≤ c && c ≤ 'f') || ('A' ≤ c && c ≤ 'F')

def isOctalDigit (c : Char) : Bool := '0' ≤ c && c ≤ '7'

def isAsciiLetter (c : Char) : Bool := c.isAlpha

/-- The value of a digit in base sixteen or below. -/
def digitOf (c : Char) : Nat :=
  if c.isDigit then c.toNat - '0'.toNat else c.toLower.toNat - 'a'.toNat + 10

def numberOf (base : Nat) (cs : List Char) : Nat := cs.foldl (fun n c => base * n + digitOf c) 0

/-- An escape as written. -/
def written (c : Char) (more : List Char) : String := String.ofList ('\\' :: c :: more)

/-- The number of a written decimal numeral. -/
def decimal (cs : List Char) : Read Nat :=
  if Integer.digitLimit < cs.length then failWith (.tooManyDigits cs.length)
  else return numberOf 10 cs

def letterEscape? : Char → Option Nat
  | 'a' => some 7
  | 'b' => some 8
  | 'f' => some 12
  | 'n' => some 10
  | 'r' => some 13
  | 't' => some 9
  | 'v' => some 11
  | '\\' => some 92
  | _ => none

/-- The classes that have an escape. -/
def classEscape? (asciiOnly : Bool) : Char → Option SetItem
  | 'd' => some (.category .digit false asciiOnly)
  | 'D' => some (.category .digit true asciiOnly)
  | 's' => some (.category .space false asciiOnly)
  | 'S' => some (.category .space true asciiOnly)
  | 'w' => some (.category .word false asciiOnly)
  | 'W' => some (.category .word true asciiOnly)
  | _ => none

/-- The conditions on places that have an escape. -/
def anchorEscape? (asciiOnly : Bool) : Char → Option Anchor
  | 'A' => some .textStart
  | 'Z' => some .textEnd
  | 'b' => some (.wordEdge false asciiOnly)
  | 'B' => some (.wordEdge true asciiOnly)
  | _ => none

/-- An escape by exactly `count` hexadecimal digits, which began at `start`. -/
def hexEscape (start : Nat) (c : Char) (count : Nat) : Read Nat := do
  let ds ← takeWhile count isHexDigit
  if ds.length ≠ count then failAt start (.incompleteEscape (written c ds))
  else if 0x7FFFFFFF < numberOf 16 ds then failWith .codePointTooLarge
  else if 0x10FFFF < numberOf 16 ds then failAt start (.badEscape (written c ds))
  else return numberOf 16 ds

/-- An escape by the name of a character, which began at `start`. -/
def nameEscape (start : Nat) : Read Nat := do
  if !(← accept '\x7b') then failBack 0 .missingBrace
  else
    let name ← takeName '\x7d' "character name"
    match Text.characterNamed? name with
    | some n => return n
    | none => failAt start (.undefinedCharacter name)

/-- The code point of an escape that has none of the other meanings: it must be no letter. -/
def plainEscape (start : Nat) (c : Char) : Read Nat :=
  if isAsciiLetter c || c.isDigit then failAt start (.badEscape (written c []))
  else return c.toNat

/-- An escape by code or name, or of a character that needs none. -/
def codeEscape (start : Nat) (c : Char) : Read Nat :=
  match c with
  | 'x' => hexEscape start c 2
  | 'u' => hexEscape start c 4
  | 'U' => hexEscape start c 8
  | 'N' => nameEscape start
  | _ => plainEscape start c

def setEscape (asciiOnly : Bool) (start : Nat) (c : Char) : Read SetItem := do
  match letterEscape? c, classEscape? asciiOnly c with
  | some n, _ => return .point n
  | none, some item => return item
  | none, none =>
    if isOctalDigit c then
      let ds ← takeWhile 2 isOctalDigit
      let n := numberOf 8 (c :: ds)
      if 0o377 < n then failAt start (.octalTooLarge (written c ds)) else return .point n
    else return .point (← codeEscape start c)

/-- A reference by number to a group, which must be closed. -/
def groupReference (flags : Flags) (start : Nat) (ds : List Char) : Read Regex := do
  let index := numberOf 10 ds
  let s ← get
  if s.groupCount ≤ index then failAt (start + 1) (.invalidGroup index)
  else if (s.groupWidth? index).isNone then failAt start .openGroup
  else
    checkLookbehind index
    return .backref index flags.rule

/-- An escape by digits outside of sets: an octal code if it starts with a zero or has three octal
digits, and a reference to a group otherwise. -/
def digitEscape (flags : Flags) (start : Nat) (c : Char) : Read Regex := do
  let literal (n : Nat) : Regex := .literal false n flags.rule
  if c = '0' then
    return literal (numberOf 8 (c :: (← takeWhile 2 isOctalDigit)))
  else
    let second ← takeWhile 1 Char.isDigit
    if isOctalDigit c && second.any isOctalDigit then
      match ← takeWhile 1 isOctalDigit with
      | [] => groupReference flags start (c :: second)
      | third =>
        let ds := second ++ third
        let n := numberOf 8 (c :: ds)
        if 0o377 < n then failAt start (.octalTooLarge (written c ds)) else return literal n
    else groupReference flags start (c :: second)

/-! ### Items -/

/-- What kind of thing was read, where this matters for a repetition after it. -/
inductive ItemKind
  | anchor
  | repetition
  | other
  deriving DecidableEq, Repr

structure Item where
  kind : ItemKind := .other
  regex : Regex

def escape (flags : Flags) (start : Nat) (c : Char) : Read Item := do
  match anchorEscape? flags.ascii c, classEscape? flags.ascii c, letterEscape? c with
  | some a, _, _ => return { kind := .anchor, regex := .anchor a }
  | none, some item, _ => return { regex := .set false [item] flags.rule }
  | none, none, some n => return { regex := .literal false n flags.rule }
  | none, none, none =>
    if c.isDigit then return { regex := ← digitEscape flags start c }
    else return { regex := .literal false (← codeEscape start c) flags.rule }

/-! ### Sets -/

/-- A member of a set that begins with a glyph which has been passed over. -/
def setMember (asciiOnly : Bool) (start : Nat) : Glyph → Read SetItem
  | .plain c => return .point c.toNat
  | .escaped c => setEscape asciiOnly start c
  | .dangling => failAt start .danglingEscape

/-- A range from one member to another; both must be single characters. -/
def setRange (first last : Glyph) (lo hi : SetItem) : Read SetItem := do
  let text := first.chars ++ '-' :: last.chars
  let bad : Read SetItem := failBack text.length (.badRange (String.ofList text))
  match lo, hi with
  | .point lo, .point hi => if hi < lo then bad else return .range lo hi
  | _, _ => bad

/-- The members of a set up to its bracket. A bracket that comes first is a member. -/
def setItems (asciiOnly : Bool) (start : Nat) : Nat → List SetItem → Read (List SetItem)
  | 0, _ => failAt start .unterminatedSet
  | fuel + 1, items => do
    let here ← tell
    match ← take with
    | none => failAt start .unterminatedSet
    | some first =>
      if first = .plain ']' && !items.isEmpty then return items
      else
        let lo ← setMember asciiOnly here first
        if ← accept '-' then
          let there ← tell
          match ← take with
          | none => failAt start .unterminatedSet
          | some last =>
            if last = .plain ']' then return items ++ [lo, .point '-'.toNat]
            else
              let hi ← setMember asciiOnly there last
              setItems asciiOnly start fuel (items ++ [← setRange first last lo hi])
        else setItems asciiOnly start fuel (items ++ [lo])

def charSet (flags : Flags) (start : Nat) : Read Regex := do
  let negated ← accept '^'
  let items ← setItems flags.ascii start ((← get).ahead.length + 1) []
  match items.eraseDups with
  | [.point n] => return .literal negated n flags.rule
  | items => return .set negated items flags.rule

/-! ### Repetitions -/

/-- Counts from this number on are too large. -/
def repeatLimit : Nat := 4294967295

/-- A count of a repetition; it may be left out. -/
def repeatCount (ds : List Char) : Read (Option Nat) := do
  if ds.isEmpty then return none
  else
    let n ← decimal ds
    if repeatLimit ≤ n then failWith .repeatTooLarge else return some n

/-- The counts between braces, after the opening one; `none` if the brace stands for itself. -/
def braceCounts? : Read (Option (Nat × Option Nat)) := do
  let start ← get
  if start.ahead.head? = some (.plain '\x7d') then return none
  else
    let lo ← takeWhile start.ahead.length Char.isDigit
    let hi ← if ← accept ',' then takeWhile start.ahead.length Char.isDigit else pure lo
    if !(← accept '\x7d') then
      set start
      return none
    else
      let least := (← repeatCount lo).getD 0
      match ← repeatCount hi with
      | none => return some (least, none)
      | some most =>
        if most < least then failAt start.place .repeatOrder else return some (least, some most)

/-- The least and the greatest count of a repetition that begins with a character. -/
def repeatCounts? : Char → Read (Option (Nat × Option Nat))
  | '?' => return some (0, some 1)
  | '*' => return some (0, none)
  | '+' => return some (1, none)
  | _ => braceCounts?

def greed : Read Greed := do
  if ← accept '?' then return .reluctant
  else if ← accept '+' then return .possessive
  else return .greedy

/-- A repetition of an item; `start` is the place of its first character. -/
def repetition (start least : Nat) (most : Option Nat) (last : Option Item) : Read Item := do
  match last with
  | none => failAt start .nothingToRepeat
  | some item =>
    match item.kind with
    | .anchor => failAt start .nothingToRepeat
    | .repetition => failAt start .multipleRepeat
    | .other => return { kind := .repetition, regex := .loop (← greed) least most item.regex }

/-! ### Flags -/

def flag? (g : Glyph) : Option Flags := (plain? g).bind Flags.ofLetter?

/-- Refuse a glyph that should have been a flag. -/
def noFlag {α : Type} (g : Glyph) (otherwise : Flaw) : Read α :=
  failBack g.width (if (plain? g).any Text.isLetter then .unknownFlag else otherwise)

/-- The flags that are turned on, from a first one to the glyph that ends them. -/
def flagsOn : Nat → Flags → Glyph → Flags → Read (Flags × Glyph)
  | 0, _, g, _ => noFlag g .missingFlagEnd
  | fuel + 1, flag, g, on => do
    if g = .plain 'L' then failBack 0 .localeFlag
    else
      let on := on.union flag
      if (flag.ascii || flag.unicode) && on.ascii && on.unicode then failBack 0 .exclusiveFlags
      else
        match ← take with
        | none => failBack 0 .missingFlagEnd
        | some next =>
          if next = .plain ')' || next = .plain '-' || next = .plain ':' then return (on, next)
          else
            match flag? next with
            | none => noFlag next .missingFlagEnd
            | some flag => flagsOn fuel flag next on

/-- The flags that are turned off, from a first one to the colon. -/
def flagsOff : Nat → Flags → Glyph → Flags → Read Flags
  | 0, _, g, _ => noFlag g .missingColon
  | fuel + 1, flag, g, off => do
    if flag.ascii || flag.unicode || g = .plain 'L' then failBack 0 .fixedFlagOff
    else
      let off := off.union flag
      match ← take with
      | none => failBack 0 .missingColon
      | some next =>
        if next = .plain ':' then return off
        else
          match flag? next with
          | none => noFlag next .missingColon
          | some flag => flagsOff fuel flag next off

/-! ### The beginnings of groups -/

/-- What stands between a parenthesis and what it groups. -/
inductive Opening
  | capture (name : Option String)
  | bare
  | atomic
  | scoped (on off : Flags)
  | look (behind negated : Bool)
  | conditional (index : Nat)
  /-- A reference by name, which is complete. -/
  | reference (index : Nat)
  /-- A comment, which is complete. -/
  | comment
  /-- Flags for the whole pattern, which are complete. -/
  | flags

/-- The flags that a minus turns off. -/
def offPart : Read Flags := do
  match ← take with
  | none => failBack 0 .missingFlag
  | some g =>
    match flag? g with
    | none => noFlag g .missingFlag
    | some flag => flagsOff ((← get).ahead.length + 1) flag g {}

def flagsOpening (first : Glyph) : Read Opening := do
  let (on, last) ←
    match flag? first with
    | some flag => flagsOn ((← get).ahead.length + 1) flag first {}
    | none => pure ({}, first)
  if last = .plain ')' then
    modify fun s => { s with flags := s.flags.union on }
    return .flags
  else if on.template then failBack 1 .wholeFlagOn
  else
    let off ← if last = .plain '-' then offPart else pure {}
    if off.template then failBack 1 .wholeFlagOff
    else if on.overlap off then failBack 1 .flagOnAndOff
    else return .scoped on off

/-- Refuse a group name that is no name. -/
def checkGroupName (name : String) : Read Unit :=
  if Text.isName name.toList then return
  else failBack (name.length + 1) (.badGroupName name)

/-- What follows `(?P`. -/
def namedOpening : Read Opening := do
  if ← accept '<' then
    let name ← takeName '>' "group name"
    checkGroupName name
    return .capture (some name)
  else if ← accept '=' then
    let name ← takeName ')' "group name"
    checkGroupName name
    let s ← get
    match s.names.lookup name with
    | none => failBack (name.length + 1) (.unknownGroupName name)
    | some index =>
      if (s.groupWidth? index).isNone then failBack (name.length + 1) .openGroup
      else
        checkLookbehind index
        return .reference index
  else
    match ← take with
    | none => failBack 0 .unexpectedEnd
    | some g =>
      failBack (g.width + 2) (.unknownExtension (String.ofList ('?' :: 'P' :: g.chars)))

def groupLimit : Nat := 1073741823

/-- The group that a conditional asks for, by name or by number. -/
def conditionIndex (name : String) : Read Nat := do
  if Text.isName name.toList then
    match (← get).names.lookup name with
    | none => failBack (name.length + 1) (.unknownGroupName name)
    | some index => return index
  else
    match Integer.readLenient name with
    -- A numeral that is too long is no number of a group either.
    | .error _ | .ok none => failBack (name.length + 1) (.badGroupName name)
    | .ok (some n) =>
      if n < 0 then failBack (name.length + 1) (.badGroupName name)
      else if n = 0 then failBack (name.length + 1) .badGroupNumber
      else
        let index := n.toNat
        if groupLimit ≤ index then failBack (name.length + 1) (.invalidGroup index)
        else
          modify fun s =>
            if (s.asked.lookup index).isSome then s
            else { s with asked := s.asked ++ [(index, s.place - name.length - 1)] }
          return index

/-- What follows `(?<`. -/
def behindOpening : Read Opening := do
  match ← take with
  | none => failBack 0 .unexpectedEnd
  | some g =>
    if g = .plain '=' then return .look true false
    else if g = .plain '!' then return .look true true
    else failBack (g.width + 2) (.unknownExtension (String.ofList ('?' :: '<' :: g.chars)))

/-- The beginning of a group whose parenthesis stands at `start`. -/
def opening (start : Nat) : Read Opening := do
  if !(← accept '?') then return .capture none
  else
    match ← take with
    | none => failBack 0 .unexpectedEnd
    | some g =>
      match g with
      | .plain 'P' => namedOpening
      | .plain ':' => return .bare
      | .plain '#' =>
        match ← takeThrough? ')' with
        | some _ => return .comment
        | none => failAt start .unterminatedComment
      | .plain '=' => return .look false false
      | .plain '!' => return .look false true
      | .plain '<' => behindOpening
      | .plain '(' =>
        let index ← conditionIndex (← takeName ')' "group name")
        checkLookbehind index
        return .conditional index
      | .plain '>' => return .atomic
      | g =>
        if (flag? g).isSome || g = .plain '-' then flagsOpening g
        else failBack (g.width + 1) (.unknownExtension (String.ofList ('?' :: g.chars)))

/-! ### Sequences and alternations -/

/-- Characters that stand between the parts of a verbose pattern. -/
def isLayout (c : Char) : Bool := c = ' ' || (9 ≤ c.toNat && c.toNat ≤ 13)

/-- One pattern after the other. -/
def Regex.ofList : List Regex → Regex
  | [] => .empty
  | [r] => r
  | r :: rs => .seq r (ofList rs)

def closing (start : Nat) : Read Unit := do
  if !(← accept ')') then failAt start .unterminatedGroup

/-- A part that begins with a character which is no parenthesis and has been passed over; `last` is
the part before it. The part takes the place of the last one if it is a repetition. -/
def simplePart (flags : Flags) (start : Nat) (c : Char) (last : Option Item) : Read Item := do
  let literal : Item := { regex := .literal false c.toNat flags.rule }
  match c with
  | '.' => return { regex := .any flags.dotAll }
  | '^' =>
    let place : Anchor := if flags.multiline then .lineStart else .textStart
    return { kind := .anchor, regex := .anchor place }
  | '$' =>
    let place : Anchor := if flags.multiline then .lineEnd else .lastLineEnd
    return { kind := .anchor, regex := .anchor place }
  | '[' => return { regex := ← charSet flags start }
  | _ =>
    if c = '?' || c = '*' || c = '+' || c = '\x7b' then
      match ← repeatCounts? c with
      | none => return literal
      | some (least, most) => repetition start least most last
    else return literal

/-- Put a part behind the others, which are listed last first. -/
def addPart (done : List Item) (item : Item) : List Item :=
  if item.kind = .repetition then item :: done.tail else item :: done

/-- How many calls of `alternation` and `sequence` can be open at once. The stack of the interpreter
has room for a thousand calls, but never are all of them left for these two. -/
def callLimit : Nat := 992

/-- Go on with a number of open calls. -/
def enter (calls : Nat) : Read Unit :=
  if callLimit < calls then failWith .nestedTooDeep else return

mutual

/-- Alternatives, separated by bars, inside a number of open calls. -/
def alternation : Nat → Flags → (calls : Nat) → (first : Bool) → Read Regex
  | 0, _, _, _ => return .empty
  | fuel + 1, flags, calls, first => do
    enter (calls + 2)
    let source ← get
    let flags := if calls = 0 then source.flags else flags
    let r ← sequence fuel flags (calls + 2) (calls = 0 && first) []
    if ← accept '|' then return .alt r (← alternation fuel flags calls false)
    else return r

/-- Parts up to a bar, a closing parenthesis or the end; `first` says whether flags for the whole
pattern may come, and `done` lists the parts before, last first. -/
def sequence : Nat → Flags → (calls : Nat) → (first : Bool) → List Item → Read Regex
  | 0, _, _, _, _ => return .empty
  | fuel + 1, flags, calls, first, done => do
    let start ← tell
    match ← peek with
    | none => return Regex.ofList (done.reverse.map (·.regex))
    | some .dangling => failAt start .danglingEscape
    | some (.escaped c) =>
      skip 1
      sequence fuel flags calls first ((← escape flags start c) :: done)
    | some (.plain c) =>
      if c = '|' || c = ')' then return Regex.ofList (done.reverse.map (·.regex))
      else
        skip 1
        if flags.verbose && isLayout c then sequence fuel flags calls first done
        else if flags.verbose && c = '#' then
          discard (takeThrough? '\n')
          sequence fuel flags calls first done
        else if c = '(' then
          match ← opening start with
          | .comment => sequence fuel flags calls first done
          | .flags =>
            if !first || !done.isEmpty then failAt start .misplacedFlags
            else sequence fuel (← get).flags calls first done
          | .reference index =>
            sequence fuel flags calls first ({ regex := .backref index flags.rule } :: done)
          | .capture name =>
            let index ← openGroup name
            let r ← alternation fuel flags calls false
            closing start
            closeGroup index (← widthHere r)
            sequence fuel flags calls first ({ regex := .group index r } :: done)
          | .bare =>
            let r ← alternation fuel flags calls false
            closing start
            sequence fuel flags calls first ({ regex := r } :: done)
          | .scoped on off =>
            let r ← alternation fuel (flags.within on off) calls false
            closing start
            sequence fuel flags calls first ({ regex := r } :: done)
          | .atomic =>
            let r ← alternation fuel flags calls false
            closing start
            sequence fuel flags calls first ({ regex := .atomic r } :: done)
          | .look behind negated =>
            let outer := (← get).behind
            if behind && outer.isNone then
              modify fun s => { s with behind := some s.groupCount }
            let r ← alternation fuel flags calls false
            modify fun s => { s with behind := outer }
            closing start
            let look ←
              if behind then pure (Regex.lookbehind (← widthHere r) negated r)
              else pure (Regex.lookahead negated r)
            sequence fuel flags calls first ({ regex := look } :: done)
          | .conditional index =>
            enter (calls + 1)
            let yes ← sequence fuel flags (calls + 1) false []
            let no ← if ← accept '|' then sequence fuel flags (calls + 1) false [] else pure .empty
            if (← peek) = some (.plain '|') then failBack 0 .tooManyBranches
            else
              closing start
              sequence fuel flags calls first ({ regex := .conditional index yes no } :: done)
        else
          sequence fuel flags calls first (addPart done (← simplePart flags start c done.head?))

end

/-! ### Whole patterns -/

/-- The first thing that a pattern may not hold, from left to right: a repetition in a template,
or a look behind of no fixed width. -/
def Regex.flaw? (template : Bool) : Regex → Option Flaw
  | empty | any _ | literal _ _ _ | set _ _ _ | anchor _ | backref _ _ => none
  | seq r s | alt r s | conditional _ r s => r.flaw? template <|> s.flaw? template
  | loop greed _ _ r =>
    if template then
      some (.templateRepeat (match greed with
        | .greedy => "MAX_REPEAT"
        | .reluctant => "MIN_REPEAT"
        | .possessive => "POSSESSIVE_REPEAT"))
    else r.flaw? template
  | group _ r | lookahead _ r | atomic r => r.flaw? template
  | lookbehind width _ r =>
    if repeatLimit < width.least then some .lookbehindTooFar
    else if width.most ≠ some width.least then some .variableLookbehind
    else r.flaw? template

structure Program where
  flags : Flags
  regex : Regex
  deriving Repr

def readWhole (fuel : Nat) : Read Program := do
  skip 0
  let regex ← alternation fuel {} 0 true
  let s ← get
  if s.flags.ascii && s.flags.unicode then failWith .incompatibleFlags
  else if !s.ahead.isEmpty then failBack 0 .unbalanced
  else
    match s.asked.find? (s.groupCount ≤ ·.1) with
    | some (index, place) => failAt place (.invalidGroup index)
    | none =>
      match regex.flaw? s.flags.template with
      | some flaw => throw (.flaw ⟨flaw, none⟩)
      | none => return ⟨s.flags, regex⟩

def read (pattern : String) : Except Failure Program :=
  let gs := Glyph.ofString pattern
  (readWhole (2 * gs.length + 3)).run' { ahead := gs }

end ValueSpec.Pattern
