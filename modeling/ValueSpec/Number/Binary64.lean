import ValueSpec.Fault

/-!
# Binary floating-point numbers

The numbers of the 64-bit binary format: a not-a-number, the two infinities, and the finite
numbers `± significand · 2 ^ exponent` with a significand below `2 ^ 53`. A finite number is kept
in its one canonical form: the exponent is as small as the significand allows, and never below
`-1074`. Rounding is to the nearest number, a tie going to the even significand.
-/

namespace ValueSpec

/-- A 64-bit binary floating-point number. -/
inductive Binary64
  | nan
  | infinite (negative : Bool)
  | finite (negative : Bool) (significand : Nat) (exponent : Int)
  deriving DecidableEq, Repr

namespace Binary64

def minExponent : Int := -1074

def maxExponent : Int := 971

/-! ### Rounding -/

/-- The integer nearest to `num / den`, a tie going to the even one. -/
def roundHalfEven (num den : Nat) : Nat :=
  let q := num / den
  let r := num % den
  if den < 2 * r || (2 * r = den && q % 2 = 1) then q + 1 else q

/-- The fraction `num / den` divided by `base ^ e`. -/
def scale (base : Nat) (num den : Nat) : Int → Nat × Nat
  | .ofNat e => (num, den * base.pow e)
  | .negSucc e => (num * base.pow (e + 1), den)

/-- The exponent of the highest power of two that is at most `num / den`. -/
def floorLog2 (num den : Nat) : Int :=
  let k : Int := (num.log2 : Int) - den.log2
  let (n, d) := scale 2 num den k
  if n < d then k - 1 else k

/-- The number nearest to `± num / den`. -/
def ofRatio (negative : Bool) (num den : Nat) : Binary64 :=
  if num = 0 then .finite negative 0 minExponent
  else
    let e := max (floorLog2 num den - 52) minExponent
    let (n, d) := scale 2 num den e
    let q := roundHalfEven n d
    let (q, e) := if q = Nat.pow 2 53 then (Nat.pow 2 52, e + 1) else (q, e)
    if maxExponent < e then .infinite negative else .finite negative q e

def decimalLength (n : Nat) : Nat := (Nat.toDigits 10 n).length

/-- The number nearest to `± digits · 10 ^ exponent`. Beyond the range of the format the answer is
known from the size alone. -/
def ofDecimal (negative : Bool) (digits : Nat) (exponent : Int) : Binary64 :=
  let size := exponent + decimalLength digits
  if digits = 0 then .finite negative 0 minExponent
  else if 310 < size then .infinite negative
  else if size < -330 then .finite negative 0 minExponent
  else
    let (num, den) := scale 10 digits 1 (-exponent)
    ofRatio negative num den

/-- The number nearest to an integer, which must be in range. -/
def ofInt (n : Int) : Except Fault Binary64 :=
  match ofRatio (n < 0) n.natAbs 1 with
  | .infinite _ => .error .integerTooLarge
  | x => .ok x

/-! ### Order -/

/-- The value of a finite number in units of `2 ^ minExponent`, an integer. -/
def units (negative : Bool) (significand : Nat) (exponent : Int) : Int :=
  let n : Int := (significand * Nat.pow 2 (exponent - minExponent).toNat : Nat)
  if negative then -n else n

/-- The value of an integer in units of `2 ^ minExponent`. -/
def unitsOfInt (n : Int) : Int := n * (Nat.pow 2 (-minExponent).toNat : Nat)

/-- The numeric order; nothing is below or above a not-a-number. -/
def le : Binary64 → Binary64 → Bool
  | .nan, _ => false
  | _, .nan => false
  | .infinite true, _ => true
  | _, .infinite false => true
  | .infinite false, _ => false
  | _, .infinite true => false
  | .finite s m e, .finite s' m' e' => units s m e ≤ units s' m' e'

end Binary64

end ValueSpec
