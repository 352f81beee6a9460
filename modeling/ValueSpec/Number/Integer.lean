import ValueSpec.Fault
import ValueSpec.Text.Blank
import ValueSpec.Text.Letter

namespace ValueSpec.Integer

/-- Numerals with more digits are neither read nor written. -/
def digitLimit : Nat := 4300

/-- The sign at the beginning of a numeral, true for a minus, and the text after it. -/
def takeSign : List Char → Bool × List Char
  | '-' :: rest => (true, rest)
  | '+' :: rest => (false, rest)
  | rest => (false, rest)

/-- The number with the given decimal digits, highest first. -/
def ofDigits (ds : List Nat) : Nat := ds.foldl (fun n d => 10 * n + d) 0

def signed (negative : Bool) (n : Nat) : Int := if negative then -(n : Int) else n

def asciiDigit (c : Char) : Nat := c.toNat - '0'.toNat

/-- Read a plain numeral; `none` if the text is not one. -/
def read (s : String) : Except Fault (Option Int) :=
  let (negative, digits) := takeSign s.toList
  if digits.isEmpty || !digits.all Char.isDigit then .ok none
  else if digitLimit < digits.length then .error (.tooManyDigits digits.length)
  else .ok (some (signed negative (ofDigits (digits.map asciiDigit))))

/-- The digits of a lenient numeral: any script, single underscores between them. -/
def groupedDigits? : List Char → Option (List Nat)
  | [] => none
  | [c] => (Text.digitValue? c).map ([·])
  | c :: '_' :: rest => do
    let d ← Text.digitValue? c
    let ds ← groupedDigits? rest
    return d :: ds
  | c :: rest => do
    let d ← Text.digitValue? c
    let ds ← groupedDigits? rest
    return d :: ds

/-- The blanks around a lenient numeral: all but the information separators. -/
def isPadding (c : Char) : Bool := Text.isBlank c && !(28 ≤ c.toNat && c.toNat ≤ 31)

def unpadded (cs : List Char) : List Char :=
  ((cs.dropWhile isPadding).reverse.dropWhile isPadding).reverse

/-- Read a lenient numeral; `none` if the text is not one. -/
def readLenient (s : String) : Except Fault (Option Int) :=
  let (negative, rest) := takeSign (unpadded s.toList)
  match groupedDigits? rest with
  | none => .ok none
  | some ds =>
    if digitLimit < ds.length then .error (.tooManyDigits ds.length)
    else .ok (some (signed negative (ofDigits ds)))

/-! ### Writing -/

def numeral (n : Int) : String := toString n

/-- Has an integer at most as many digits as can be written? -/
def isShort (n : Int) : Bool := (Nat.toDigits 10 n.natAbs).length ≤ digitLimit

variable {α β : Type}

/-- What is written with some integers in it. It cannot be if one of them has too many digits. -/
def writing (ns : List Int) (written : α) : Except Fault α :=
  if ns.all isShort then .ok written else .error .tooLongToWrite

/-! ### Small facts -/

@[simp] theorem signed_false (n : Nat) : signed false n = n := rfl

@[simp] theorem signed_true (n : Nat) : signed true n = -(n : Int) := rfl

theorem length_toDigits_le_iff {n k : Nat} (hk : 0 < k) :
    (Nat.toDigits 10 n).length ≤ k ↔ n < Nat.pow 10 k :=
  Nat.length_toDigits_le_iff (by decide) hk

theorem isShort_iff {n : Int} : isShort n ↔ n.natAbs < Nat.pow 10 digitLimit := by
  rw [isShort, decide_eq_true_eq, length_toDigits_le_iff (by decide)]

theorem isShort_pow_digitLimit : isShort (Nat.pow 10 digitLimit : Nat) = false := by
  rw [Bool.eq_false_iff, ne_eq, isShort_iff, Int.natAbs_natCast]
  exact Nat.lt_irrefl _

@[simp] theorem writing_nil (written : α) : writing [] written = .ok written := rfl

theorem writing_of_short {ns : List Int} (h : ns.all isShort) (written : α) :
    writing ns written = .ok written := if_pos h

theorem writing_of_not_short {ns : List Int} (h : ns.all isShort = false) (written : α) :
    writing ns written = .error .tooLongToWrite := if_neg (by simp [h])

/-- What is written in two parts. -/
theorem writing_bind {f : α → Except Fault β} {a : α} {b : β} (ms : List Int) {ns : List Int}
    (h : f a = writing ns b) : writing ms a >>= f = writing (ms ++ ns) b := by
  cases hm : ms.all isShort with
  | true =>
    rw [writing_of_short hm]
    show f a = _
    rw [h, writing, writing, List.all_append, hm, Bool.true_and]
  | false =>
    have hall : (ms ++ ns).all isShort = false := by rw [List.all_append, hm, Bool.false_and]
    rw [writing_of_not_short hm, writing_of_not_short hall]
    rfl

theorem writing_map (f : α → β) (ns : List Int) (a : α) :
    (writing ns a).map f = writing ns (f a) := by
  cases h : ns.all isShort with
  | true => rw [writing_of_short h, writing_of_short h]; rfl
  | false => rw [writing_of_not_short h, writing_of_not_short h]; rfl

end ValueSpec.Integer
