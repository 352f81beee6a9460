import ValueSpec.Value

namespace ValueSpec

inductive Bound
  | int (n : Int)
  | real (x : Binary64)
  deriving DecidableEq, Repr

namespace Bound

def value : Bound → Value
  | int n => .int n
  | real x => .real x

/-- A bound in a name. -/
def text (b : Bound) : String := b.value.message

def integers : Bound → List Int
  | int n => [n]
  | real _ => []

def isShort (b : Bound) : Bool := b.integers.all Integer.isShort

@[simp] theorem integers_value (b : Bound) : b.value.integers = b.integers := by cases b <;> rfl

def atMost : Bound → Binary64 → Bool
  | int _, .nan => false
  | int _, .infinite negative => !negative
  | int n, .finite s m e => Binary64.unitsOfInt n ≤ Binary64.units s m e
  | real x, y => x.le y

def atLeast : Bound → Binary64 → Bool
  | int _, .nan => false
  | int _, .infinite negative => negative
  | int n, .finite s m e => Binary64.units s m e ≤ Binary64.unitsOfInt n
  | real x, y => y.le x

/-- Are two bounds the same number? A not-a-number is the same as nothing. An integer that is too
long to be written is beyond all floating-point numbers. -/
def same : Bound → Bound → Bool
  | int m, int n => m = n
  | b, real x => b.isShort && b.atMost x && b.atLeast x
  | real x, b => b.isShort && b.atMost x && b.atLeast x

end Bound

end ValueSpec
