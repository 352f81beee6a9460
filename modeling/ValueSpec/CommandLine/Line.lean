import ValueSpec.CommandLine.Word
import ValueSpec.Params

namespace ValueSpec.CommandLine

/-- How many words an operand takes. -/
inductive Count
  | one
  /-- At least one. -/
  | several
  /-- One and everything after it, switches and all. -/
  | rest
  deriving DecidableEq, Repr

/-- What a command takes. An operand of several words comes last. -/
structure Usage where
  switches : List Switch
  operands : List Count
  deriving Repr

/-- What was found on a command line. -/
structure Line where
  /-- The names of the flags. -/
  flags : List String := []
  /-- The values of switches, by name. -/
  values : Record String := []
  /-- The words of each operand. -/
  operands : List (List String) := []
  /-- The words that are neither a switch nor part of an operand. -/
  unknown : List String := []
  deriving Repr

/-! ### Operands -/

def Word.isDashes (w : Word) : Bool := w.kind = .dashes

def Word.isOperand (w : Word) : Bool := w.kind = .operand

namespace Count

/-- Does an operand go on with a word? -/
def continues : Count → Word → Bool
  | one, w => w.isDashes
  | several, w => w.isDashes || w.isOperand
  | rest, _ => true

/-- The texts of the words of an operand. The dashes that end the switches do not count, unless the
operand takes the switches too. -/
def texts (c : Count) (ws : List Word) : List String :=
  let texts := ws.map (·.text)
  if c = rest then texts else texts.erase "--"

/-- Take the words of an operand, if it begins here. -/
def take? (c : Count) (ws : List Word) : Option (List String × List Word) :=
  match ws.dropWhile (·.isDashes) with
  | [] => none
  | w :: others =>
    if w.isOperand then
      some (c.texts (ws.takeWhile (·.isDashes) ++ w :: others.takeWhile c.continues),
        others.dropWhile c.continues)
    else none

theorem length_dropWhile_le {α : Type} (p : α → Bool) (xs : List α) :
    (xs.dropWhile p).length ≤ xs.length :=
  (List.dropWhile_suffix p).length_le

theorem length_lt_of_take? {c : Count} {ws left : List Word} {texts : List String}
    (h : c.take? ws = some (texts, left)) : left.length < ws.length := by
  unfold take? at h
  split at h
  · simp at h
  · next w others hd =>
    split at h
    · simp only [Option.some.injEq, Prod.mk.injEq] at h
      have h₁ := length_dropWhile_le (·.isDashes) ws
      have h₂ := length_dropWhile_le c.continues others
      rw [hd] at h₁
      rw [← h.2]
      simp only [List.length_cons] at h₁
      omega
    · simp at h

end Count

/-! ### Switches -/

/-- A switch that stands in a word, after others that have no value, and the value that is
attached to it. -/
structure Given where
  before : List Switch := []
  switch : Switch
  attached : Option String

/-- Is the value of the last switch the next word? -/
def Given.takesNext (g : Given) : Bool := g.switch.role = .value && g.attached.isNone

/-- The switches that are given by letters in one word. What follows the letter of a switch with a
value is its value; what follows another letter is a letter again. -/
def byLetters (switches : List Switch) (s : Switch) : List Char → Except Stop Given
  | [] => .error .misuse
  | c :: rest =>
    if s.role = .value then .ok { switch := s, attached := some (String.ofList (c :: rest)) }
    else
      match switches.find? fun s => s.letter = some c with
      | none => .error .misuse
      | some next =>
        if rest.isEmpty then .ok { before := [s], switch := next, attached := none }
        else do
          let given ← byLetters switches next rest
          return { given with before := s :: given.before }

def given (switches : List Switch) (s : Switch) (byLetter : Bool) (attached : Option (List Char)) :
    Except Stop Given :=
  match attached with
  | none => .ok { switch := s, attached := none }
  | some cs =>
    if s.role = .value then .ok { switch := s, attached := some (String.ofList cs) }
    else if byLetter then byLetters switches s cs
    else .error .misuse

namespace Line

def note (line : Line) (s : Switch) (value : String) : Except Stop Line :=
  match s.role with
  | .help => .error .help
  | .flag => .ok { line with flags := line.flags ++ [s.name] }
  | .value => .ok { line with values := line.values.set s.name value }

def noteAll (line : Line) (g : Given) (value : String) : Except Stop Line := do
  let line ← g.before.foldlM (fun line s => line.note s "") line
  line.note g.switch value

/-- Note a word that is neither a switch nor part of an operand. -/
def noteUnknown (line : Line) (w : Word) : Line :=
  { line with unknown := line.unknown ++ [w.text] }

def noteOperand (line : Line) (texts : List String) : Line :=
  { line with operands := line.operands ++ [texts] }

def has (line : Line) (s : Switch) : Bool := line.flags.contains s.name

/-- The value of a switch, if it was given. -/
def value? (line : Line) (s : Switch) : Option String := line.values.get? s.name

end Line

/-! ### Command lines -/

/-- Read words with the operands that are still to come. -/
def readWords (switches : List Switch) (operands : List Count) (line : Line) (ws : List Word) :
    Except Stop Line :=
  match ws with
  | [] => if operands.isEmpty then .ok line else .error .misuse
  | w :: rest =>
    match w.kind with
    | .unknown => readWords switches operands (line.noteUnknown w) rest
    | .switch s byLetter attached => do
      let g ← given switches s byLetter attached
      if g.takesNext then
        match _next : rest with
        | [] => .error .misuse
        | v :: others =>
          if v.isOperand then readWords switches operands (← line.noteAll g v.text) others
          else .error .misuse
      else readWords switches operands (← line.noteAll g (g.attached.getD "")) rest
    | _ =>
      match operands with
      | [] => readWords switches [] (line.noteUnknown w) rest
      | c :: more =>
        match _taken : c.take? (w :: rest) with
        | none => readWords switches (c :: more) (line.noteUnknown w) rest
        | some (texts, left) => readWords switches more (line.noteOperand texts) left
termination_by ws.length
decreasing_by
  all_goals first
    | exact Count.length_lt_of_take? _taken
    | (simp only [List.length_cons]; omega)

def Usage.read (u : Usage) (args : List String) : Except Stop Line := do
  readWords u.switches u.operands {} (← words u.switches args)

end ValueSpec.CommandLine
