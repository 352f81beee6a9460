import ValueSpec.Text.Quoted

namespace ValueSpec.Pattern

/-- Why a text is no pattern. -/
inductive Flaw
  /-- A backslash at the end. -/
  | danglingEscape
  /-- The end of the pattern where a name should begin, or an empty name. -/
  | missingName (what : String)
  /-- The end of the pattern inside a name. -/
  | unterminatedName (close : Char)
  /-- A group name that is no name. -/
  | badGroupName (name : String)
  /-- An escape by code with too few digits. -/
  | incompleteEscape (written : String)
  /-- An escape by name without its brace. -/
  | missingBrace
  /-- An escape by a name that no character has. -/
  | undefinedCharacter (name : String)
  /-- An octal escape beyond the range of a byte. -/
  | octalTooLarge (written : String)
  /-- An escape that means nothing. -/
  | badEscape (written : String)
  /-- A reference to a group from inside of it. -/
  | openGroup
  /-- A reference to a group of the look behind that it stands in. -/
  | groupInSameLookbehind
  /-- A reference to a group that does not exist. -/
  | invalidGroup (index : Nat)
  /-- The end of the pattern inside a set. -/
  | unterminatedSet
  /-- A range that goes down, or that ends in a class. -/
  | badRange (written : String)
  /-- A repetition whose least count is above its greatest. -/
  | repeatOrder
  /-- A repetition of nothing, or of a condition on a place. -/
  | nothingToRepeat
  /-- A repetition of a repetition. -/
  | multipleRepeat
  /-- The end of the pattern after the beginning of an extension. -/
  | unexpectedEnd
  /-- A reference to a group name that does not exist. -/
  | unknownGroupName (name : String)
  /-- An extension that does not exist. -/
  | unknownExtension (written : String)
  /-- The end of the pattern inside a comment. -/
  | unterminatedComment
  /-- A group that is not closed. -/
  | unterminatedGroup
  /-- A condition on the group zero. -/
  | badGroupNumber
  /-- A conditional with three branches. -/
  | tooManyBranches
  /-- Flags for the whole pattern after its beginning. -/
  | misplacedFlags
  /-- Two groups of one name. -/
  | groupRedefined (name : String) (index earlier : Nat)
  /-- The flag for classes by locale. -/
  | localeFlag
  /-- Two flags that exclude each other. -/
  | exclusiveFlags
  /-- Flags without an end. -/
  | missingFlagEnd
  /-- A letter that is no flag. -/
  | unknownFlag
  /-- A flag for the whole pattern, turned on for a part. -/
  | wholeFlagOn
  /-- A minus without flags. -/
  | missingFlag
  /-- A flag that cannot be turned off. -/
  | fixedFlagOff
  /-- Flags to turn off without a colon. -/
  | missingColon
  /-- A flag for the whole pattern, turned off for a part. -/
  | wholeFlagOff
  /-- A flag that is turned on and off at once. -/
  | flagOnAndOff
  /-- A group that is closed and has not been opened. -/
  | unbalanced
  /-- A look behind at a pattern that matches texts of several lengths. -/
  | variableLookbehind
  /-- A look behind that goes too far back. -/
  | lookbehindTooFar
  /-- A repetition in a pattern that has been declared a template. -/
  | templateRepeat (operator : String)
  deriving DecidableEq, Repr

def Flaw.message : Flaw → String
  | danglingEscape => "bad escape (end of pattern)"
  | missingName what => "missing " ++ what
  | unterminatedName close => "missing " ++ String.singleton close ++ ", unterminated name"
  | badGroupName name => "bad character in group name " ++ Text.quote name
  | incompleteEscape written => "incomplete escape " ++ written
  | missingBrace => "missing \x7b"
  | undefinedCharacter name => "undefined character name " ++ Text.quote name
  | octalTooLarge written => "octal escape value " ++ written ++ " outside of range 0-0o377"
  | badEscape written => "bad escape " ++ written
  | openGroup => "cannot refer to an open group"
  | groupInSameLookbehind => "cannot refer to group defined in the same lookbehind subpattern"
  | invalidGroup index => "invalid group reference " ++ toString index
  | unterminatedSet => "unterminated character set"
  | badRange written => "bad character range " ++ written
  | repeatOrder => "min repeat greater than max repeat"
  | nothingToRepeat => "nothing to repeat"
  | multipleRepeat => "multiple repeat"
  | unexpectedEnd => "unexpected end of pattern"
  | unknownGroupName name => "unknown group name " ++ Text.quote name
  | unknownExtension written => "unknown extension " ++ written
  | unterminatedComment => "missing ), unterminated comment"
  | unterminatedGroup => "missing ), unterminated subpattern"
  | badGroupNumber => "bad group number"
  | tooManyBranches => "conditional backref with more than two branches"
  | misplacedFlags => "global flags not at the start of the expression"
  | groupRedefined name index earlier =>
    "redefinition of group name " ++ Text.quote name ++ " as group " ++ toString index ++
      "; was group " ++ toString earlier
  | localeFlag => "bad inline flags: cannot use 'L' flag with a str pattern"
  | exclusiveFlags => "bad inline flags: flags 'a', 'u' and 'L' are incompatible"
  | missingFlagEnd => "missing -, : or )"
  | unknownFlag => "unknown flag"
  | wholeFlagOn => "bad inline flags: cannot turn on global flag"
  | missingFlag => "missing flag"
  | fixedFlagOff => "bad inline flags: cannot turn off flags 'a', 'u' and 'L'"
  | missingColon => "missing :"
  | wholeFlagOff => "bad inline flags: cannot turn off global flag"
  | flagOnAndOff => "bad inline flags: flag turned on and off"
  | unbalanced => "unbalanced parenthesis"
  | variableLookbehind => "look-behind requires fixed-width pattern"
  | lookbehindTooFar => "looks too much behind"
  | templateRepeat operator => "internal: unsupported template operator " ++ operator

/-- A flaw and its place in the pattern, if it has one. -/
structure Error where
  flaw : Flaw
  place : Option Nat := none
  deriving DecidableEq, Repr

namespace Error

def line (cs : List Char) (place : Nat) : Nat := (cs.take place).count '\n' + 1

/-- The column of a place in its line, counted from one. -/
def column (cs : List Char) (place : Nat) : Nat :=
  ((cs.take place).reverse.takeWhile (· ≠ '\n')).length + 1

def message (pattern : String) (e : Error) : String :=
  match e.place with
  | none => e.flaw.message
  | some place =>
    let cs := pattern.toList
    let here := " at position " ++ toString place
    let lines :=
      if cs.contains '\n' then
        " (line " ++ toString (line cs place) ++ ", column " ++ toString (column cs place) ++ ")"
      else ""
    e.flaw.message ++ here ++ lines

end Error

end ValueSpec.Pattern
