import ValueSpec.Number.Binary64

/-!
# Decimal digits of floating-point numbers

A positive number is written as `0.d₁d₂…dₙ · 10 ^ point`. Two choices of digits are made here: the
fewest digits that read back as the number, of these the nearest, and the nearest digits of a given
number. Both are computed in exact arithmetic on the grid of the decimals with `n` digits.
-/

namespace ValueSpec

/-- Decimal digits, highest first and without zeros at the end, and the place of the point. -/
structure Decimal where
  digits : List Char
  point : Int
  deriving DecidableEq, Repr

namespace Decimal

def significantDigits (n : Nat) : List Char :=
  ((Nat.toDigits 10 n).reverse.dropWhile (· = '0')).reverse

/-- The decimal `c · 10 ^ (point - n)`, where `c` has `n` digits or is `10 ^ n`. -/
def ofGrid (n : Nat) (point : Int) (c : Nat) : Decimal :=
  ⟨significantDigits c, if c = Nat.pow 10 n then point + 1 else point⟩

/-- The place of the point of `num / den`: the fraction is below `10 ^ point` and not below a tenth
of that. -/
def pointOf (num den : Nat) : Int :=
  let k : Int := (Binary64.decimalLength num : Int) - Binary64.decimalLength den
  let (n, d) := Binary64.scale 10 num den k
  if n < d then k else k + 1

def fraction (significand : Nat) (exponent : Int) : Nat × Nat :=
  Binary64.scale 2 significand 1 (-exponent)

/-- Does `c · 10 ^ (point - n)` read back as `m · 2 ^ e`? It does so within half a unit of the last
binary place, a quarter below a power of two; the ends count if the significand is even. -/
def readsBack (m : Nat) (e : Int) (n : Nat) (point : Int) (c : Nat) : Bool :=
  let low := if m = Nat.pow 2 52 && Binary64.minExponent < e then 4 * m - 1 else 4 * m - 2
  let (cn, cd) := Binary64.scale 10 c 1 ((n : Int) - point)
  let (ln, ld) := fraction low (e - 2)
  let (hn, hd) := fraction (4 * m + 2) (e - 2)
  if m % 2 = 0 then ln * cd ≤ cn * ld && cn * hd ≤ hn * cd
  else ln * cd < cn * ld && cn * hd < hn * cd

/-- The nearer of the two `n`-digit neighbours of `m · 2 ^ e` that read back as it, if any does. -/
def onGrid (m : Nat) (e : Int) (point : Int) (n : Nat) : Option Decimal :=
  let (num, den) := fraction m e
  let (gn, gd) := Binary64.scale 10 num den (point - n)
  let c := gn / gd
  match readsBack m e n point c, readsBack m e n point (c + 1) with
  | true, true => some (ofGrid n point (Binary64.roundHalfEven gn gd))
  | true, false => some (ofGrid n point c)
  | false, true => some (ofGrid n point (c + 1))
  | false, false => none

/-- The nearest decimal with at most `n` digits, a tie going to the even last digit. -/
def nearest (n : Nat) (m : Nat) (e : Int) : Decimal :=
  if m = 0 then ⟨['0'], 1⟩
  else
    let (num, den) := fraction m e
    let point := pointOf num den
    let (gn, gd) := Binary64.scale 10 num den (point - n)
    ofGrid n point (Binary64.roundHalfEven gn gd)

/-- The fewest digits that read back as `m · 2 ^ e`; seventeen always do. -/
def shortest (m : Nat) (e : Int) : Decimal :=
  if m = 0 then ⟨['0'], 1⟩
  else
    let (num, den) := fraction m e
    let point := pointOf num den
    match (List.range 17).findSome? fun i => onGrid m e point (i + 1) with
    | some d => d
    | none => nearest 17 m e

end Decimal

end ValueSpec
