import Mathlib.Computability.Language
import Mathlib.Order.CompletePartialOrder
import Mathlib.Tactic.Lemma
import ValueSpec.Json
import ValueSpec.Pattern.Reader

/-!
# The grammar of JSON

The standard grammar of JSON says which texts stand for a document, and every rule of it is a
language here. A string stands for the characters that it decodes to, whichever of them are escaped,
and a number for itself as it is written. Blanks may stand around brackets, commas and colons.

Outside of strings a document is made of few characters. None of them is the capital `I` or `N`
that the words for numbers without a numeral begin with.
-/

namespace ValueSpec.Json

/-- A document as it is read: its numbers are kept as they are written. -/
inductive Tree
  | null
  | bool (b : Bool)
  | number (numeral : String)
  | text (s : String)
  | array (items : List Tree)
  | object (fields : List (String × Tree))

namespace Grammar

/-! ### Characters of strings -/

/-- The letters after a backslash that stand for a character. -/
def shortEscapes : List (Char × Char) :=
  [('"', '"'), ('\\', '\\'), ('/', '/'), ('b', Char.ofNat 8), ('f', Char.ofNat 12), ('n', '\n'),
    ('r', '\r'), ('t', '\t')]

/-- Four hexadecimal digits and the number that they stand for. -/
structure IsUnit (ds : List Char) (n : Nat) : Prop where
  length : ds.length = 4
  digits : ∀ d ∈ ds, Pattern.isHexDigit d
  value : Pattern.numberOf 16 ds = n

/-- The ways to write a character between the quotes of a string. -/
inductive Spelling : Char → List Char → Prop
  /-- Controls, quotes and backslashes cannot stand for themselves. -/
  | plain {c : Char} : 0x20 ≤ c.toNat → c ≠ '"' → c ≠ '\\' → Spelling c [c]
  | short {c d : Char} : (d, c) ∈ shortEscapes → Spelling c ['\\', d]
  | unit {c : Char} {ds : List Char} : IsUnit ds c.toNat → Spelling c ('\\' :: 'u' :: ds)
  /-- Two units, of which the first has the high bits and the second the low ones. -/
  | pair {c : Char} {ds es : List Char} {high low : Nat} : IsUnit ds (0xD800 + high) →
      IsUnit es (0xDC00 + low) → high < 0x400 → low < 0x400 →
      c.toNat = 0x10000 + high * 0x400 + low →
      Spelling c ('\\' :: 'u' :: (ds ++ '\\' :: 'u' :: es))

/-! ### Rules -/

def blanks : Language Char := {cs | ∀ c ∈ cs, c ∈ [' ', '\t', '\n', '\r']}

/-- A part with blanks around it. -/
def padded (l : Language Char) : Language Char := blanks * l * blanks

/-- A bracket, comma or colon. -/
def sign (c : Char) : Language Char := padded {[c]}

def digits : Language Char := {cs | cs ≠ [] ∧ ∀ c ∈ cs, c.isDigit}

/-- Digits that do not begin with a zero. -/
def positive : Language Char := {cs | cs ∈ digits ∧ cs.head? ≠ some '0'}

def whole : Language Char := {['0']} + positive

def fraction : Language Char := {['.']} * digits

def exponent : Language Char := {['e'], ['E']} * (1 + {['+'], ['-']}) * digits

def unsigned : Language Char := whole * (1 + fraction) * (1 + exponent)

def number : Language Char := (1 + {['-']}) * unsigned

def character (c : Char) : Language Char := {cs | Spelling c cs}

/-- The ways to write a string that decodes to a text. -/
def string (s : String) : Language Char := {['"']} * (s.toList.map character).prod * {['"']}

/-- Several parts with commas between them. -/
def separated : List (Language Char) → Language Char
  | [] => 1
  | [l] => l
  | l :: m :: ls => l * sign ',' * separated (m :: ls)

mutual

/-- The ways to write a value. -/
def value : Tree → Language Char
  | .null => {"null".toList}
  | .bool true => {"true".toList}
  | .bool false => {"false".toList}
  | .number numeral => {cs | cs ∈ number ∧ cs = numeral.toList}
  | .text s => string s
  | .array items => sign '[' * separated (values items) * sign ']'
  | .object fields => sign '\x7b' * separated (members fields) * sign '\x7d'

/-- The ways to write each item of an array. -/
def values : List Tree → List (Language Char)
  | [] => []
  | t :: ts => value t :: values ts

/-- The ways to write each member of an object. -/
def members : List (String × Tree) → List (Language Char)
  | [] => []
  | (name, t) :: fields => string name * sign ':' * value t :: members fields

end

/-- The texts that are a document. -/
def document (t : Tree) : Language Char := padded (value t)

/-! ### Characters of numbers -/

/-- The characters that numbers are made of. -/
def isNumeric (c : Char) : Bool := c.isDigit || c ∈ ['-', '+', '.', 'e', 'E']

def numeric : Language Char := {cs | cs.all isNumeric}

lemma mul_le_numeric {l m : Language Char} (hl : l ≤ numeric) (hm : m ≤ numeric) :
    l * m ≤ numeric := by
  intro x hx
  obtain ⟨cs, hcs, ds, hds, rfl⟩ := Language.mem_mul.mp hx
  show (cs ++ ds).all isNumeric
  rw [List.all_append, Bool.and_eq_true]
  exact ⟨hl hcs, hm hds⟩

lemma singleton_le_numeric {cs : List Char} (h : cs.all isNumeric) :
    ({cs} : Language Char) ≤ numeric :=
  Set.singleton_subset_iff.mpr h

lemma digits_le_numeric : digits ≤ numeric := by
  intro cs hcs
  refine List.all_eq_true.mpr fun c hc => ?_
  rw [isNumeric, hcs.2 c hc, Bool.true_or]

lemma number_le_numeric : number ≤ numeric := by
  have hone : 1 ≤ numeric := singleton_le_numeric rfl
  have hsigns (c d : Char) (hc : [c].all isNumeric) (hd : [d].all isNumeric) :
      ({[c], [d]} : Language Char) ≤ numeric :=
    Set.insert_subset hc (singleton_le_numeric hd)
  have hwhole : whole ≤ numeric :=
    add_le (singleton_le_numeric rfl) fun cs hcs => digits_le_numeric hcs.1
  have hfraction : fraction ≤ numeric :=
    mul_le_numeric (singleton_le_numeric rfl) digits_le_numeric
  have hexponent : exponent ≤ numeric :=
    mul_le_numeric (mul_le_numeric (hsigns _ _ rfl rfl) (add_le hone (hsigns _ _ rfl rfl)))
      digits_le_numeric
  have hminus : 1 + {['-']} ≤ numeric := add_le hone (singleton_le_numeric rfl)
  exact mul_le_numeric hminus
    (mul_le_numeric (mul_le_numeric hwhole (add_le hone hfraction)) (add_le hone hexponent))

/-! ### Outside of strings -/

/-- Where a place in a text is with respect to strings. -/
inductive Place
  | outside
  | inside
  /-- Behind a backslash. -/
  | escaped
  deriving DecidableEq

/-- The place behind a character. -/
def Place.after : Place → Char → Place
  | outside, c => if c = '"' then inside else outside
  | inside, c => if c = '"' then outside else if c = '\\' then escaped else inside
  | escaped, _ => inside

/-- The place behind several characters. -/
def Place.run (p : Place) (cs : List Char) : Place := cs.foldl Place.after p

/-- The characters that stand outside of strings. -/
def outer : Place → List Char → List Char
  | _, [] => []
  | p, c :: cs => (if p = .outside then [c] else []) ++ outer (p.after c) cs

lemma Place.run_append (p : Place) (cs ds : List Char) :
    p.run (cs ++ ds) = (p.run cs).run ds := by
  simp [run]

lemma outer_append (p : Place) (cs ds : List Char) :
    outer p (cs ++ ds) = outer p cs ++ outer (p.run cs) ds := by
  induction cs generalizing p with
  | nil => rfl
  | cons c cs ih =>
    rw [List.cons_append, outer, outer, ih, List.append_assoc]
    rfl

/-- Texts that close all strings that they open. -/
def closed : Language Char := {cs | Place.outside.run cs = .outside}

/-- The two capitals that words for numbers without a numeral begin with. -/
def isCapital (c : Char) : Bool := c = 'I' || c = 'N'

/-- Closed texts that have none of the two capitals outside of strings. -/
def quiet : Language Char := {cs | cs ∈ closed ∧ (outer .outside cs).all (!isCapital ·)}

/-- Neither a quote nor one of the two capitals. -/
def isPlain (c : Char) : Bool := c ≠ '"' && !isCapital c

/-- Texts that leave a string as they found it. -/
def inner : Language Char := {cs | Place.inside.run cs = .inside ∧ outer .inside cs = []}

lemma append_mem_closed {cs ds : List Char} (hcs : cs ∈ closed) (hds : ds ∈ closed) :
    cs ++ ds ∈ closed := by
  show Place.run _ _ = _
  rw [Place.run_append, hcs, hds]

lemma append_mem_quiet_iff {cs ds : List Char} (hcs : cs ∈ closed) :
    cs ++ ds ∈ quiet ↔ cs ∈ quiet ∧ ds ∈ quiet := by
  have hrun : Place.outside.run cs = .outside := hcs
  have hclosed : cs ++ ds ∈ closed ↔ ds ∈ closed := by
    show Place.run _ _ = _ ↔ Place.run _ _ = _
    rw [Place.run_append, hrun]
  show _ ∧ _ ↔ (_ ∧ _) ∧ _ ∧ _
  rw [hclosed, outer_append, hrun, List.all_append, Bool.and_eq_true]
  tauto

lemma quiet_mul_quiet : quiet * quiet ≤ quiet := by
  intro x hx
  obtain ⟨cs, hcs, ds, hds, rfl⟩ := Language.mem_mul.mp hx
  exact (append_mem_quiet_iff hcs.1).mpr ⟨hcs, hds⟩

lemma mul_le_quiet {l m : Language Char} (hl : l ≤ quiet) (hm : m ≤ quiet) : l * m ≤ quiet :=
  (mul_le_mul' hl hm).trans quiet_mul_quiet

/-- A text without quotes is quiet if it has none of the capitals. -/
lemma mem_quiet_of_plain {cs : List Char} (h : cs.all isPlain) : cs ∈ quiet := by
  induction cs with
  | nil => exact ⟨rfl, rfl⟩
  | cons c cs ih =>
    rw [List.all_cons, Bool.and_eq_true, isPlain, Bool.and_eq_true, decide_eq_true_eq] at h
    obtain ⟨⟨hquote, hcapital⟩, hcs⟩ := h
    have hafter : Place.outside.after c = .outside := if_neg hquote
    have hc : [c] ∈ quiet := by
      refine ⟨hafter, ?_⟩
      rw [outer, outer, if_pos rfl, List.append_nil, List.all_cons, hcapital]
      rfl
    exact (append_mem_quiet_iff hc.1).mpr ⟨hc, ih hcs⟩

/-! ### Inside of strings -/

lemma append_mem_inner {cs ds : List Char} (hcs : cs ∈ inner) (hds : ds ∈ inner) :
    cs ++ ds ∈ inner := by
  obtain ⟨hrun, houter⟩ := hcs
  refine ⟨?_, ?_⟩
  · rw [Place.run_append, hrun]
    exact hds.1
  · rw [outer_append, houter, hrun, List.nil_append]
    exact hds.2

/-- A text without quotes and backslashes stays inside of a string. -/
lemma mem_inner_of_forall {cs : List Char} (h : ∀ c ∈ cs, c ∉ ['"', '\\']) : cs ∈ inner := by
  induction cs with
  | nil => exact ⟨rfl, rfl⟩
  | cons c cs ih =>
    obtain ⟨hc, hcs⟩ := List.forall_mem_cons.mp h
    have hafter : Place.inside.after c = .inside := by
      simp only [List.mem_cons, List.not_mem_nil, or_false, not_or] at hc
      rw [Place.after, if_neg hc.1, if_neg hc.2]
    have hsingle : [c] ∈ inner := by
      refine ⟨hafter, ?_⟩
      rw [outer, hafter]
      rfl
    exact append_mem_inner hsingle (ih hcs)

lemma IsUnit.mem_inner {ds : List Char} {n : Nat} (h : IsUnit ds n) :
    '\\' :: 'u' :: ds ∈ inner := by
  have hdigits : ds ∈ inner := by
    apply mem_inner_of_forall
    intro d hd hmem
    have hsigns : ['"', '\\'].all (!Pattern.isHexDigit ·) := by decide
    have hsign := List.all_eq_true.mp hsigns d hmem
    simp [h.digits d hd] at hsign
  have hmark : ['\\', 'u'] ∈ inner := ⟨rfl, rfl⟩
  exact append_mem_inner hmark hdigits

lemma Spelling.mem_inner {c : Char} {cs : List Char} (h : Spelling c cs) : cs ∈ inner := by
  cases h with
  | plain _ hquote hbackslash => exact mem_inner_of_forall (by simp [hquote, hbackslash])
  | short _ => exact ⟨rfl, rfl⟩
  | unit hunit => exact hunit.mem_inner
  | pair hhigh hlow => exact append_mem_inner hhigh.mem_inner hlow.mem_inner

lemma prod_le_inner (cs : List Char) : (cs.map character).prod ≤ inner := by
  induction cs with
  | nil => exact Set.singleton_subset_iff.mpr ⟨rfl, rfl⟩
  | cons c cs ih =>
    rw [List.map_cons, List.prod_cons]
    intro x hx
    obtain ⟨front, hfront, rest, hrest, rfl⟩ := Language.mem_mul.mp hx
    exact append_mem_inner (Spelling.mem_inner hfront) (ih hrest)

lemma quoted_mem_quiet {content : List Char} (h : content ∈ inner) :
    ['"'] ++ content ++ ['"'] ∈ quiet := by
  obtain ⟨hrun, houter⟩ := h
  have hopen : Place.outside.run ['"'] = .inside := rfl
  refine ⟨?_, ?_⟩
  · show Place.run _ _ = _
    rw [Place.run_append, Place.run_append, hopen, hrun]
    rfl
  · rw [outer_append, outer_append, Place.run_append, hopen, houter, hrun]
    rfl

lemma string_le_quiet (s : String) : string s ≤ quiet := by
  intro x hx
  obtain ⟨front, hfront, close, rfl, rfl⟩ := Language.mem_mul.mp hx
  obtain ⟨quote, rfl, content, hcontent, rfl⟩ := Language.mem_mul.mp hfront
  exact quoted_mem_quiet (prod_le_inner _ hcontent)

/-! ### Documents -/

lemma singleton_le_quiet {cs : List Char} (h : cs.all isPlain) : ({cs} : Language Char) ≤ quiet :=
  Set.singleton_subset_iff.mpr (mem_quiet_of_plain h)

lemma padded_le_quiet {l : Language Char} (h : l ≤ quiet) : padded l ≤ quiet := by
  have hblanks : blanks ≤ quiet := by
    intro cs hcs
    have hall : [' ', '\t', '\n', '\r'].all isPlain := rfl
    exact mem_quiet_of_plain <| List.all_eq_true.mpr fun c hc =>
      List.all_eq_true.mp hall c (hcs c hc)
  exact mul_le_quiet (mul_le_quiet hblanks h) hblanks

lemma sign_le_quiet {c : Char} (h : [c].all isPlain) : sign c ≤ quiet :=
  padded_le_quiet (singleton_le_quiet h)

lemma isPlain_of_isNumeric {c : Char} (h : isNumeric c) : isPlain c := by
  have hne (d : Char) (hd : isNumeric d = false) : c ≠ d := by
    rintro rfl
    exact Bool.false_ne_true (hd.symm.trans h)
  simp [isPlain, isCapital, hne '"' rfl, hne 'I' rfl, hne 'N' rfl]

lemma number_le_quiet : number ≤ quiet := by
  intro cs hcs
  have hnumeric := List.all_eq_true.mp (number_le_numeric hcs)
  exact mem_quiet_of_plain <| List.all_eq_true.mpr fun c hc => isPlain_of_isNumeric (hnumeric c hc)

lemma separated_le_quiet {ls : List (Language Char)} (h : ∀ l ∈ ls, l ≤ quiet) :
    separated ls ≤ quiet := by
  induction ls with
  | nil => exact singleton_le_quiet rfl
  | cons l ls ih =>
    obtain ⟨hl, hls⟩ := List.forall_mem_cons.mp h
    cases ls with
    | nil => exact hl
    | cons m ls => exact mul_le_quiet (mul_le_quiet hl (sign_le_quiet rfl)) (ih hls)

mutual

lemma value_le_quiet (t : Tree) : value t ≤ quiet := by
  match t with
  | .null => exact singleton_le_quiet rfl
  | .bool true => exact singleton_le_quiet rfl
  | .bool false => exact singleton_le_quiet rfl
  | .number numeral => exact fun cs hcs => number_le_quiet hcs.1
  | .text s => exact string_le_quiet s
  | .array items =>
    exact mul_le_quiet (mul_le_quiet (sign_le_quiet rfl)
      (separated_le_quiet (values_le_quiet items))) (sign_le_quiet rfl)
  | .object fields =>
    exact mul_le_quiet (mul_le_quiet (sign_le_quiet rfl)
      (separated_le_quiet (members_le_quiet fields))) (sign_le_quiet rfl)

lemma values_le_quiet (ts : List Tree) : ∀ l ∈ values ts, l ≤ quiet := by
  match ts with
  | [] => exact nofun
  | t :: ts => exact List.forall_mem_cons.mpr ⟨value_le_quiet t, values_le_quiet ts⟩

lemma members_le_quiet (fields : List (String × Tree)) : ∀ l ∈ members fields, l ≤ quiet := by
  match fields with
  | [] => exact nofun
  | (name, t) :: fields =>
    have hmember : string name * sign ':' * value t ≤ quiet :=
      mul_le_quiet (mul_le_quiet (string_le_quiet name) (sign_le_quiet rfl))
        (value_le_quiet t)
    exact List.forall_mem_cons.mpr ⟨hmember, members_le_quiet fields⟩

end

/-- Neither of the two capitals stands outside of the strings of a document. -/
lemma document_le_quiet (t : Tree) : document t ≤ quiet := padded_le_quiet (value_le_quiet t)

end Grammar

end ValueSpec.Json
