import ValueSpec.Text.Fields
import ValueSpec.Text.Letter

/-!
# Words of a command line

A word of a command line is an operand or a switch. A switch has a name that begins with two
dashes, of which any beginning will do that no other name shares, and it may have a letter too.
Its value can be attached to the name by an equals sign. The word of two dashes ends the switches:
all words after it are operands. Negative numbers and words with a space in them are operands as
well, unless they name a switch.
-/

namespace ValueSpec.CommandLine

/-- Why a command line is not carried out. -/
inductive Stop
  /-- Help was asked for. -/
  | help
  /-- The command line is wrong. -/
  | misuse
  deriving DecidableEq, Repr

/-- What a switch does. -/
inductive Role
  /-- It asks for help. -/
  | help
  /-- It is on if it is given. -/
  | flag
  /-- It has a value. -/
  | value
  deriving DecidableEq, Repr

structure Switch where
  name : String
  letter : Option Char := none
  role : Role
  deriving DecidableEq, Repr

/-- What a word is. -/
inductive Kind
  | operand
  /-- The two dashes that end the switches. -/
  | dashes
  /-- A switch, given by its letter or by its name, and the text that is attached to it. -/
  | switch (s : Switch) (byLetter : Bool) (attached : Option (List Char))
  /-- It looks like a switch and is none. -/
  | unknown
  deriving DecidableEq, Repr

structure Word where
  text : String
  kind : Kind
  deriving DecidableEq, Repr

/-! ### Recognising switches -/

/-- What a switch is called: its name and its letter with a dash. -/
def Switch.isCalled (s : Switch) (called : List Char) : Bool :=
  s.name.toList = called || s.letter.any fun c => ['-', c] = called

/-- The switch that is called by its full name or its letter. -/
def calledExactly? (switches : List Switch) (attached : Option (List Char)) (called : List Char) :
    Option Kind :=
  (switches.find? (·.isCalled called)).map fun s => .switch s (s.name.toList ≠ called) attached

/-- The name and the text that is attached to it by an equals sign. -/
def cutAttached (cs : List Char) : List Char × Option (List Char) :=
  match Text.cutFirst? '=' cs with
  | some (name, attached) => (name, some attached)
  | none => (cs, none)

/-- The switch that a beginning of a name stands for. A beginning of several names is a misuse. -/
def byBeginning? (switches : List Switch) (cs : List Char) : Except Stop (Option Kind) :=
  let (start, attached) := cutAttached cs
  match switches.filter fun s => start.isPrefixOf s.name.toList with
  | [] => .ok none
  | [s] => .ok (some (.switch s false attached))
  | _ => .error .misuse

/-- The switch that a letter with more text behind it stands for. -/
def byLetter? (switches : List Switch) (letter : Char) (attached : List Char) : Option Kind :=
  (switches.find? fun s => s.letter = some letter).map fun s => .switch s true (some attached)

/-- Is the text a negative decimal number? A line break may follow. -/
def isNegativeNumber (cs : List Char) : Bool :=
  match cs with
  | '-' :: rest =>
    let rest := if rest.getLast? = some '\n' then rest.dropLast else rest
    let digits (ds : List Char) : Bool := !ds.isEmpty && ds.all Text.isDigit
    digits rest ||
      match rest.dropWhile Text.isDigit with
      | '.' :: decimals => digits decimals
      | _ => false
  | _ => false

/-- What a word is that begins with a dash and has the form of a switch. -/
def dashedKind (switches : List Switch) (cs : List Char) (second : Char) (others : List Char) :
    Except Stop Kind := do
  let direct := calledExactly? switches none cs <|>
    match Text.cutFirst? '=' cs with
    | some (called, attached) => calledExactly? switches (some attached) called
    | none => none
  let indirect ←
    match direct with
    | some kind => pure (some kind)
    | none =>
      if second = '-' then byBeginning? switches cs else pure (byLetter? switches second others)
  match indirect with
  | some kind => return kind
  | none => return if isNegativeNumber cs || cs.contains ' ' then .operand else .unknown

/-- What a word is, as long as switches are possible. -/
def kindOf (switches : List Switch) (text : String) : Except Stop Kind :=
  match text.toList with
  | '-' :: second :: others => dashedKind switches ('-' :: second :: others) second others
  | _ => .ok .operand

def words (switches : List Switch) : List String → Except Stop (List Word)
  | [] => .ok []
  | text :: rest =>
    if text = "--" then .ok (⟨text, .dashes⟩ :: rest.map fun t => ⟨t, .operand⟩)
    else do
      let kind ← kindOf switches text
      return ⟨text, kind⟩ :: (← words switches rest)

end ValueSpec.CommandLine
