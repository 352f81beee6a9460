import ValueSpec.Number.Decimal
import ValueSpec.Number.Integer

/-!
# Numerals of floating-point numbers

Reading accepts an optional sign and then one of the words `inf`, `infinity` and `nan` in any
letter case, or decimal digits of any script with an optional point and an optional exponent.
Writing comes in two styles: one that reads back as the same number, and one with at most six
digits.
-/

namespace ValueSpec.Binary64

open Integer

/-! ### Reading -/

/-- The decimal digits at the beginning of a text, as numbers, and the text after them. -/
def takeDigits : List Char → List Nat × List Char
  | [] => ([], [])
  | c :: rest =>
    match Text.digitValue? c with
    | some d => let (ds, rest) := takeDigits rest; (d :: ds, rest)
    | none => ([], c :: rest)

/-- An exponent that makes up the whole text; no text is the exponent zero. -/
def readExponent? : List Char → Option Int
  | [] => some 0
  | c :: rest =>
    if c = 'e' || c = 'E' then
      let (negative, rest) := takeSign rest
      match takeDigits rest with
      | (d :: ds, []) => some (signed negative (ofDigits (d :: ds)))
      | _ => none
    else none

/-- A decimal numeral without a sign. -/
def readDecimal? (negative : Bool) (cs : List Char) : Option Binary64 :=
  let (whole, rest) := takeDigits cs
  let (fraction, rest) :=
    match rest with
    | '.' :: rest => takeDigits rest
    | rest => ([], rest)
  if whole.isEmpty && fraction.isEmpty then none
  else
    (readExponent? rest).map fun e =>
      ofDecimal negative (ofDigits (whole ++ fraction)) (e - fraction.length)

def readChars? (cs : List Char) : Option Binary64 :=
  let (negative, rest) := takeSign cs
  let word := rest.map Char.toLower
  if word = "inf".toList || word = "infinity".toList then some (.infinite negative)
  else if word = "nan".toList then some .nan
  else readDecimal? negative rest

def read? (s : String) : Option Binary64 := readChars? s.toList

/-! ### Writing -/

/-- How digits and the place of the point become text. -/
structure Style where
  /-- Numbers of this many places before the point, or more, are written with an exponent. -/
  places : Int
  /-- Whether a whole number is written with a point and a zero. -/
  pointZero : Bool

/-- The style that reads back. -/
def Style.exact : Style := ⟨16, true⟩

/-- The style of messages. -/
def Style.brief : Style := ⟨6, false⟩

def exponentText (x : Int) : List Char :=
  let digits := Nat.toDigits 10 x.natAbs
  (if x < 0 then '-' else '+') :: (if digits.length < 2 then '0' :: digits else digits)

/-- The text of a decimal in a style: positional from `0.0001` to the largest number of places. -/
def Style.text (style : Style) (d : Decimal) : List Char :=
  if -4 < d.point && d.point ≤ style.places then
    if d.point ≤ 0 then '0' :: '.' :: (List.replicate (-d.point).toNat '0' ++ d.digits)
    else
      let whole := d.digits.take d.point.toNat
      let fraction := d.digits.drop d.point.toNat
      let padded := whole ++ List.replicate (d.point.toNat - whole.length) '0'
      if fraction.isEmpty then padded ++ (if style.pointZero then ['.', '0'] else [])
      else padded ++ '.' :: fraction
  else
    let significand :=
      match d.digits with
      | [] => []
      | [c] => [c]
      | c :: cs => c :: '.' :: cs
    significand ++ 'e' :: exponentText (d.point - 1)

/-- Write a number with the digits that `decimal` chooses. -/
def write (style : Style) (decimal : Nat → Int → Decimal) : Binary64 → String
  | .nan => "nan"
  | .infinite negative => if negative then "-inf" else "inf"
  | .finite negative m e =>
    String.ofList ((if negative then ['-'] else []) ++ style.text (decimal m e))

/-- The shortest text that reads back as the number. -/
def exactText : Binary64 → String := write .exact Decimal.shortest

/-- The text of the number in messages: at most six digits. -/
def briefText : Binary64 → String := write .brief (Decimal.nearest 6)

end ValueSpec.Binary64
