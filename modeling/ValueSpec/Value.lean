import ValueSpec.Number.Numeral
import ValueSpec.Text.Quoted

namespace ValueSpec

inductive SequenceKind
  | list
  | tuple
  | set
  | frozenset
  deriving DecidableEq, Repr

inductive Value
  | absent
  | bool (b : Bool)
  | int (n : Int)
  | real (x : Binary64)
  | text (s : String)
  | sequence (kind : SequenceKind) (items : List Value)
  deriving Repr

namespace Value

def texts (ss : List String) : Value := .sequence .tuple (ss.map .text)

def bracketed (kind : SequenceKind) (items : List String) : String :=
  let inner := ", ".intercalate items
  match kind with
  | .list => "[" ++ inner ++ "]"
  | .tuple => if items.length = 1 then "(" ++ inner ++ ",)" else "(" ++ inner ++ ")"
  | .set => if items.isEmpty then "set()" else "\x7b" ++ inner ++ "\x7d"
  | .frozenset => if items.isEmpty then "frozenset()" else "frozenset(\x7b" ++ inner ++ "\x7d)"

/-- A value as it would be written down: texts are quoted. -/
def quoted : Value → String
  | .absent => "None"
  | .bool b => if b then "True" else "False"
  | .int n => Integer.numeral n
  | .real x => x.exactText
  | .text s => Text.quote s
  | .sequence kind items => bracketed kind (items.map quoted)

/-- A value as it is shown: a text stands for itself. -/
def display : Value → String
  | .text s => s
  | v => v.quoted

/-- A value in a message: booleans in lower case, numbers with few digits, sequences separated by
commas. -/
def message : Value → String
  | .bool b => if b then "true" else "false"
  | .real x => x.briefText
  | .sequence _ items => ", ".intercalate (items.map message)
  | v => v.display

@[simp] theorem message_text (s : String) : (Value.text s).message = s := by
  simp [message, display]

mutual

/-- The integers that are written along with a value. -/
def integers : Value → List Int
  | .int n => [n]
  | .sequence _ items => integersOf items
  | _ => []

def integersOf : List Value → List Int
  | [] => []
  | v :: vs => v.integers ++ integersOf vs

end

@[simp] theorem integers_int (n : Int) : (int n).integers = [n] := rfl

@[simp] theorem integers_text (s : String) : (text s).integers = [] := rfl

@[simp] theorem integers_texts (ss : List String) : (texts ss).integers = [] := by
  induction ss with
  | nil => rfl
  | cons s ss ih => exact ih

/-- Is the value the truth value false? Nothing else is, not even zero. -/
def isFalse : Value → Bool
  | .bool false => true
  | _ => false

end Value

end ValueSpec
