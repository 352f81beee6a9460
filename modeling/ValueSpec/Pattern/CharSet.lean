import ValueSpec.Text.Blank
import ValueSpec.Text.Case

namespace ValueSpec.Pattern

/-- How a pattern compares letters. -/
inductive CaseRule
  /-- Letter case counts. -/
  | exact
  /-- The case of ASCII letters does not count. -/
  | ascii
  /-- The case of no letter counts. -/
  | unicode
  deriving DecidableEq, Repr

inductive CharClass
  | digit
  | space
  | word
  deriving DecidableEq, Repr

inductive SetItem
  | point (n : Nat)
  | range (lo hi : Nat)
  | category (cls : CharClass) (negated asciiOnly : Bool)
  deriving DecidableEq, Repr

def CharClass.holds (cls : CharClass) (asciiOnly : Bool) (c : Char) : Bool :=
  match cls, asciiOnly with
  | digit, true => c.isDigit
  | space, true => c = ' ' || (9 ≤ c.toNat && c.toNat ≤ 13)
  | word, true => c.isAlphanum || c = '_'
  | digit, false => Text.isDigit c
  | space, false => Text.isBlank c
  | word, false => Text.isAlphanumeric c || c = '_'

/-! ### Letter case -/

/-- Lower-case characters that have the same upper-case form as another one. -/
def sameUpper : List (Nat × List Nat) :=
  [(0x69, [0x131]), (0x73, [0x17F]), (0xB5, [0x3BC]), (0x131, [0x69]), (0x17F, [0x73]),
   (0x345, [0x3B9, 0x1FBE]), (0x390, [0x1FD3]), (0x3B0, [0x1FE3]), (0x3B2, [0x3D0]),
   (0x3B5, [0x3F5]), (0x3B8, [0x3D1]), (0x3B9, [0x345, 0x1FBE]), (0x3BA, [0x3F0]), (0x3BC, [0xB5]),
   (0x3C0, [0x3D6]), (0x3C1, [0x3F1]), (0x3C2, [0x3C3]), (0x3C3, [0x3C2]), (0x3C6, [0x3D5]),
   (0x3D0, [0x3B2]), (0x3D1, [0x3B8]), (0x3D5, [0x3C6]), (0x3D6, [0x3C0]), (0x3F0, [0x3BA]),
   (0x3F1, [0x3C1]), (0x3F5, [0x3B5]), (0x432, [0x1C80]), (0x434, [0x1C81]), (0x43E, [0x1C82]),
   (0x441, [0x1C83]), (0x442, [0x1C84, 0x1C85]), (0x44A, [0x1C86]), (0x463, [0x1C87]),
   (0x1C80, [0x432]), (0x1C81, [0x434]), (0x1C82, [0x43E]), (0x1C83, [0x441]),
   (0x1C84, [0x442, 0x1C85]), (0x1C85, [0x442, 0x1C84]), (0x1C86, [0x44A]), (0x1C87, [0x463]),
   (0x1C88, [0xA64B]), (0x1E61, [0x1E9B]), (0x1E9B, [0x1E61]), (0x1FBE, [0x345, 0x3B9]),
   (0x1FD3, [0x390]), (0x1FE3, [0x3B0]), (0xA64B, [0x1C88]), (0xFB05, [0xFB06]),
   (0xFB06, [0xFB05])]

def lastBasic : Nat := 0xFFFF

/-- The lower-case form of an ASCII letter; any other code point is its own. -/
def lowerAscii (n : Nat) : Nat := if 0x41 ≤ n && n ≤ 0x5A then n + 0x20 else n

/-- The lower-case form of a code point under a rule. -/
def CaseRule.lower : CaseRule → Nat → Nat
  | exact, n => n
  | ascii, n => lowerAscii n
  | unicode, n => Text.lowerPoint n

/-- The code points that a lower-case one stands for under a rule, apart from its capitals. -/
def CaseRule.variants : CaseRule → Nat → List Nat
  | unicode, n => n :: (sameUpper.lookup n).getD []
  | _, n => [n]

/-- The code points with a given lower-case form under a rule. -/
def CaseRule.preimages : CaseRule → Nat → List Nat
  | exact, n => [n]
  | ascii, n =>
    if 0x61 ≤ n && n ≤ 0x7A then [n, n - 0x20] else if 0x41 ≤ n && n ≤ 0x5A then [] else [n]
  | unicode, n => Text.lowerPreimages n

/-- Are two code points the same under a rule? -/
def CaseRule.same (rule : CaseRule) (n p : Nat) : Bool :=
  (rule.variants (rule.lower p)).contains (rule.lower n)

/-! ### Membership -/

/-- Does a member of a set hold a character under a rule? Beyond the basic plane a single point of
a set stands for itself only. -/
def SetItem.holds (rule : CaseRule) (c : Char) : SetItem → Bool
  | point p =>
    if rule = .exact || p ≤ lastBasic then rule.same c.toNat p else rule.lower c.toNat = p
  | range lo hi =>
    let n := rule.lower c.toNat
    let within (x : Nat) : Bool := lo ≤ x && x ≤ hi
    if rule = .exact then within n
    else
      (rule.variants n).any (fun m => (rule.preimages m).any fun x => within x && x ≤ lastBasic) ||
        (lastBasic < hi && (within n || (Text.lowerPreimages n).any within))
  | category cls negated asciiOnly =>
    cls.holds asciiOnly (Char.ofNat (rule.lower c.toNat)) != negated

def inSet (rule : CaseRule) (negated : Bool) (items : List SetItem) (c : Char) : Bool :=
  items.any (·.holds rule c) != negated

end ValueSpec.Pattern
