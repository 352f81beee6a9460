import ValueSpec.Proofs.Decimals
import ValueSpec.Proofs.Json.Grammar

/-!
# What is written of documents

Every number that is finite is written as the grammar wants it, and every text as a string that
decodes to it. So a document is written as one of the grammar if all of its numbers are finite. If
one of them is not, then its word stands outside of strings, where no document has such words. All
that is written is visible ASCII and makes one line.
-/

namespace ValueSpec

open Json Json.Grammar

/-- Neither infinite nor a not-a-number. -/
def Binary64.IsFinite : Binary64 → Prop
  | .finite .. => True
  | _ => False

/-! ### Numerals -/

lemma toDigits_mem_digits (n : Nat) : Nat.toDigits 10 n ∈ digits :=
  ⟨Nat.toDigits_ne_nil, fun _ => Nat.isDigit_of_mem_toDigits (by decide) (by decide)⟩

lemma toDigits_mem_whole (n : Nat) : Nat.toDigits 10 n ∈ whole := by
  cases n with
  | zero => exact .inl rfl
  | succ n => exact .inr ⟨toDigits_mem_digits _, head?_toDigits (Nat.succ_pos n)⟩

lemma append_mem_unsigned {ws fs es : List Char} (hw : ws ∈ whole) (hf : fs ∈ 1 + fraction)
    (he : es ∈ 1 + exponent) : ws ++ fs ++ es ∈ unsigned :=
  Language.append_mem_mul (Language.append_mem_mul hw hf) he

lemma append_fraction_mem_unsigned {ws fs : List Char} (hw : ws ∈ whole)
    (hf : fs ∈ 1 + fraction) : ws ++ fs ∈ unsigned := by
  rw [← List.append_nil (ws ++ fs)]
  exact append_mem_unsigned hw hf (.inl rfl)

lemma whole_mem_unsigned {ws : List Char} (hw : ws ∈ whole) : ws ∈ unsigned := by
  rw [← List.append_nil ws]
  exact append_fraction_mem_unsigned hw (.inl rfl)

/-- A number is its digits, with a minus sign if it is negative. -/
lemma signed_mem_number {cs : List Char} (h : cs ∈ unsigned) (negative : Bool) :
    (if negative then ['-'] else []) ++ cs ∈ number := by
  refine Language.append_mem_mul ?_ h
  cases negative with
  | false => exact .inl rfl
  | true => exact .inr rfl

lemma numeral_mem_number (n : Int) : (Integer.numeral n).toList ∈ number := by
  have hunsigned (k : Nat) : Nat.toDigits 10 k ∈ unsigned :=
    whole_mem_unsigned (toDigits_mem_whole k)
  show n.repr.toList ∈ number
  rw [Int.repr_eq_if]
  split_ifs
  · rw [Nat.toList_repr]
    exact signed_mem_number (hunsigned _) false
  · rw [String.toList_append, Nat.toList_repr]
    exact signed_mem_number (hunsigned _) true

namespace Binary64

lemma exponentText_mem_exponent (x : Int) : 'e' :: exponentText x ∈ exponent := by
  have hsign : [if x < 0 then '-' else '+'] ∈ (1 + {['+'], ['-']} : Language Char) := by
    split_ifs
    · exact .inr (.inr rfl)
    · exact .inr (.inl rfl)
  have hdigits : (if (Nat.toDigits 10 x.natAbs).length < 2 then '0' :: Nat.toDigits 10 x.natAbs
      else Nat.toDigits 10 x.natAbs) ∈ digits := by
    obtain ⟨hne, hall⟩ := toDigits_mem_digits x.natAbs
    split_ifs
    · exact ⟨List.cons_ne_nil _ _, List.forall_mem_cons.mpr ⟨rfl, hall⟩⟩
    · exact ⟨hne, hall⟩
  have hmark : ['e'] ∈ ({['e'], ['E']} : Language Char) := .inl rfl
  exact Language.append_mem_mul (Language.append_mem_mul hmark hsign) hdigits

lemma fraction_of_digits {cs : List Char} (hne : cs ≠ []) (hcs : ∀ c ∈ cs, c.isDigit) :
    '.' :: cs ∈ 1 + fraction := by
  have hpoint : ['.'] ∈ ({['.']} : Language Char) := rfl
  have hdigits : cs ∈ digits := ⟨hne, hcs⟩
  exact .inr (Language.append_mem_mul hpoint hdigits)

lemma isDigit_of_mem_zeros {n : Nat} {c : Char} (h : c ∈ List.replicate n '0') : c.isDigit := by
  rw [List.eq_of_mem_replicate h]
  rfl

variable {d : Decimal} (hd : d.Normal)

include hd

/-- The digits before the point, filled up with zeros. -/
lemma padded_mem_whole (hpoint : 0 < d.point) :
    d.digits.take d.point.toNat ++
      List.replicate (d.point.toNat - (d.digits.take d.point.toNat).length) '0' ∈ whole := by
  by_cases hzero : d.digits.head? = some '0'
  · rw [hd.leading hzero]
    exact .inl rfl
  · obtain ⟨c, cs, hcs⟩ := List.exists_cons_of_ne_nil hd.nonempty
    obtain ⟨k, hk⟩ := Nat.exists_eq_succ_of_ne_zero (by omega : d.point.toNat ≠ 0)
    refine .inr ⟨⟨by simp [hcs, hk], ?_⟩, by simpa [hcs, hk] using hzero⟩
    intro e he
    obtain htake | hfill := List.mem_append.mp he
    · exact hd.digits e (List.mem_of_mem_take htake)
    · exact isDigit_of_mem_zeros hfill

/-- One digit, and behind a point the others. -/
lemma significand_mem_unsigned {es : List Char} (hes : es ∈ 1 + exponent) :
    (match d.digits with
      | [] => []
      | [c] => [c]
      | c :: cs => c :: '.' :: cs) ++ es ∈ unsigned := by
  have hall := hd.digits
  have hfirst : ∀ c, d.digits.head? = some c → [c] ∈ whole := by
    intro c hc
    by_cases hzero : c = '0'
    · exact .inl (by rw [hzero]; rfl)
    · have hdigit : c.isDigit := hd.digits c (List.mem_of_head? hc)
      have hdigits : [c] ∈ digits := ⟨List.cons_ne_nil _ _, List.forall_mem_singleton.mpr hdigit⟩
      exact .inr ⟨hdigits, by simpa using hzero⟩
  split
  case h_1 hnil => exact absurd hnil hd.nonempty
  case h_2 c hc =>
    rw [hc] at hfirst
    exact append_mem_unsigned (hfirst c rfl) (.inl rfl) hes
  case h_3 c cs hne hcs =>
    rw [hcs] at hfirst hall
    have hfraction := fraction_of_digits (by simpa using hne) (List.forall_mem_cons.mp hall).2
    exact append_mem_unsigned (hfirst c rfl) hfraction hes

/-- The digits of a decimal are written as a number, whatever the style. -/
lemma Style.text_mem_unsigned (style : Style) : style.text d ∈ unsigned := by
  unfold Style.text
  dsimp only
  split_ifs with hrange hpoint hempty
  · -- zeros behind the point, and then the digits
    have hfraction := fraction_of_digits
      (List.append_ne_nil_of_right_ne_nil (List.replicate (-d.point).toNat '0') hd.nonempty)
      (List.forall_mem_append.mpr ⟨fun c => isDigit_of_mem_zeros, hd.digits⟩)
    have hzero : ['0'] ∈ whole := .inl rfl
    exact append_fraction_mem_unsigned hzero hfraction
  · have hfraction := fraction_of_digits (List.cons_ne_nil '0' [])
      (List.forall_mem_singleton.mpr rfl)
    exact append_fraction_mem_unsigned (padded_mem_whole hd (by omega)) hfraction
  · rw [List.append_nil]
    exact whole_mem_unsigned (padded_mem_whole hd (by omega))
  · have hfraction := fraction_of_digits (by simpa using hempty) fun c hc =>
      hd.digits c (List.mem_of_mem_drop hc)
    exact append_fraction_mem_unsigned (padded_mem_whole hd (by omega)) hfraction
  · exact significand_mem_unsigned hd (.inr (exponentText_mem_exponent _))

end Binary64

namespace Json

lemma realText_mem_number {x : Binary64} (h : x.IsFinite) : (realText x).toList ∈ number := by
  cases x with
  | nan => cases h
  | infinite _ => cases h
  | finite negative m e =>
    show (String.ofList _).toList ∈ number
    rw [String.toList_ofList]
    exact signed_mem_number
      (Binary64.Style.text_mem_unsigned (Decimal.normal_shortest m e) .exact) negative

/-! ### Strings -/

lemma length_hexDigits (w n : Nat) : (Text.hexDigits w n).length = w := by
  induction w generalizing n with
  | zero => rfl
  | succ w ih => simp [Text.hexDigits, ih]

lemma isHexDigit_of_mem_hexDigits {w n : Nat} {d : Char} (h : d ∈ Text.hexDigits w n) :
    Pattern.isHexDigit d := by
  induction w generalizing n with
  | zero => cases h
  | succ w ih =>
    obtain h | h := List.mem_append.mp h
    · exact ih h
    · have hdigit : ∀ k < 16, Pattern.isHexDigit (Nat.digitChar k) := by decide
      rw [List.mem_singleton.mp h]
      exact hdigit _ (Nat.mod_lt _ (by decide))

lemma numberOf_hexDigits (w n : Nat) :
    Pattern.numberOf 16 (Text.hexDigits w n) = n % 16 ^ w := by
  induction w generalizing n with
  | zero => exact (Nat.mod_one n).symm
  | succ w ih =>
    have hdigit : ∀ k < 16, Pattern.digitOf (Nat.digitChar k) = k := by decide
    rw [Text.hexDigits, Pattern.numberOf, List.foldl_append, ← Pattern.numberOf, ih,
      List.foldl_cons, List.foldl_nil, hdigit _ (Nat.mod_lt _ (by decide)), pow_succ', Nat.mod_mul]
    omega

/-- Four digits are read as the number that they were written of. -/
lemma isUnit_hexDigits {n : Nat} (h : n < 0x10000) : IsUnit (Text.hexDigits 4 n) n :=
  ⟨length_hexDigits 4 n, fun _ => isHexDigit_of_mem_hexDigits,
    (numberOf_hexDigits 4 n).trans (Nat.mod_eq_of_lt h)⟩

lemma toNat_lt (c : Char) : c.toNat < 0x110000 := by
  have hvalid : c.toNat.isValidChar := c.valid
  exact hvalid.elim (fun h => h.trans (by decide)) And.right

/-- The forms in which a character is written. -/
inductive CharForm (c : Char) : List Char → Prop
  | letter {d : Char} : (d, c) ∈ shortEscapes → CharForm c ['\\', d]
  | plain : c ≠ '"' → c ≠ '\\' → 0x20 ≤ c.toNat ∧ c.toNat < 0x7F → CharForm c [c]
  | unit : c.toNat < 0x10000 → CharForm c (unitEscape c.toNat)
  | pair : 0x10000 ≤ c.toNat →
      CharForm c (unitEscape (0xD800 + (c.toNat - 0x10000) / 0x400) ++
        unitEscape (0xDC00 + (c.toNat - 0x10000) % 0x400))

lemma charForm_charText (c : Char) : CharForm c (charText c) := by
  unfold charText
  dsimp only
  split
  case isTrue h => exact .letter (by rw [h]; decide)
  split
  case isTrue h => exact .letter (by rw [h]; decide)
  split
  case isTrue h => exact .letter (by rw [h]; decide)
  split
  case isTrue h => exact .letter (by rw [h]; decide)
  split
  case isTrue h => exact .letter (by rw [h]; decide)
  split
  case isTrue h => exact .letter (by rw [← Char.ofNat_toNat c, h]; decide)
  split
  case isTrue h => exact .letter (by rw [← Char.ofNat_toNat c, h]; decide)
  split
  case isTrue hquote hbackslash _ _ _ _ _ h =>
    rw [Bool.and_eq_true, decide_eq_true_eq, decide_eq_true_eq] at h
    exact .plain hquote hbackslash h
  split
  case isTrue h => exact .unit h
  case isFalse h => exact .pair (not_lt.mp h)

/-- A character is written in one of the ways that the grammar has for it. -/
lemma spelling_charText (c : Char) : Spelling c (charText c) := by
  have hform := charForm_charText c
  generalize charText c = cs at hform ⊢
  cases hform with
  | letter h => exact .short h
  | plain hquote hbackslash h => exact .plain h.1 hquote hbackslash
  | unit h => exact .unit (isUnit_hexDigits h)
  | pair h =>
    have hbound := toNat_lt c
    exact .pair (isUnit_hexDigits (by omega)) (isUnit_hexDigits (by omega)) (by omega) (by omega)
      (by omega)

/-- A text in quotes is a string that decodes to the text. -/
lemma quoted_mem_string (s : String) : (quoted s).toList ∈ string s := by
  have hprod (cs : List Char) : cs.flatMap charText ∈ (cs.map character).prod := by
    induction cs with
    | nil => rfl
    | cons c cs ih =>
      rw [List.flatMap_cons, List.map_cons, List.prod_cons]
      exact Language.append_mem_mul (spelling_charText c) ih
  have hquote : ['"'] ∈ ({['"']} : Language Char) := rfl
  have hopened := Language.append_mem_mul hquote (hprod s.toList)
  rw [quoted, String.toList_ofList]
  exact Language.append_mem_mul hopened hquote

/-! ### Documents -/

mutual

/-- A document all of whose numbers are finite. -/
def IsFinite : Json → Prop
  | .real x => x.IsFinite
  | .array items => AllFinite items
  | .object fields => FieldsFinite fields
  | _ => True

def AllFinite : List Json → Prop
  | [] => True
  | j :: js => j.IsFinite ∧ AllFinite js

def FieldsFinite : List (String × Json) → Prop
  | [] => True
  | (_, j) :: fields => j.IsFinite ∧ FieldsFinite fields

end

mutual

/-- A document as it is read: its numbers are kept as they are written. -/
def tree : Json → Tree
  | .null => .null
  | .bool b => .bool b
  | .int n => .number (Integer.numeral n)
  | .real x => .number (realText x)
  | .text s => .text s
  | .array items => .array (trees items)
  | .object fields => .object (fieldTrees fields)

def trees : List Json → List Tree
  | [] => []
  | j :: js => j.tree :: trees js

def fieldTrees : List (String × Json) → List (String × Tree)
  | [] => []
  | (name, j) :: fields => (name, j.tree) :: fieldTrees fields

end

lemma mem_padded {l : Language Char} {cs : List Char} (h : cs ∈ l) : cs ∈ padded l := by
  have hnil : [] ∈ blanks := nofun
  have hpadded := Language.append_mem_mul (Language.append_mem_mul hnil h) hnil
  rwa [List.nil_append, List.append_nil] at hpadded

lemma mem_sign (c : Char) : [c] ∈ sign c := mem_padded rfl

lemma space_mem_sign (c : Char) : [c, ' '] ∈ sign c := by
  have hnil : [] ∈ blanks := nofun
  have hspace : [' '] ∈ blanks := List.forall_mem_singleton.mpr List.mem_cons_self
  have hc : [c] ∈ ({[c]} : Language Char) := rfl
  exact Language.append_mem_mul (Language.append_mem_mul hnil hc) hspace

/-- Three parts after one another. -/
lemma append_mem_mul {s t u : String} {l m n : Language Char} (hs : s.toList ∈ l)
    (ht : t.toList ∈ m) (hu : u.toList ∈ n) : (s ++ t ++ u).toList ∈ l * m * n := by
  rw [String.toList_append, String.toList_append]
  exact Language.append_mem_mul (Language.append_mem_mul hs ht) hu

/-- Parts with commas and spaces between them. -/
lemma intercalate_mem_separated {ss : List String} {ls : List (Language Char)}
    (h : List.Forall₂ (fun s l => s.toList ∈ l) ss ls) :
    (", ".intercalate ss).toList ∈ separated ls := by
  induction h with
  | nil => rfl
  | @cons s l ss ls hs h ih =>
    cases h with
    | nil => exact hs
    | cons _ _ =>
      rw [String.intercalate_cons_cons]
      exact append_mem_mul hs (space_mem_sign ',') ih

mutual

lemma write_mem_value (j : Json) (h : j.IsFinite) : (write j).toList ∈ value j.tree := by
  match j with
  | .null => rfl
  | .bool true => rfl
  | .bool false => rfl
  | .int n => exact ⟨numeral_mem_number n, rfl⟩
  | .real x => exact ⟨realText_mem_number h, rfl⟩
  | .text s => exact quoted_mem_string s
  | .array items =>
    have hitems := intercalate_mem_separated (writeItems_mem_values items h)
    exact append_mem_mul (mem_sign '[') hitems (mem_sign ']')
  | .object fields =>
    have hfields := intercalate_mem_separated (writeFields_mem_members fields h)
    exact append_mem_mul (mem_sign '\x7b') hfields (mem_sign '\x7d')

lemma writeItems_mem_values (js : List Json) (h : AllFinite js) :
    List.Forall₂ (fun s l => s.toList ∈ l) (writeItems js) (values (trees js)) := by
  match js with
  | [] => exact .nil
  | j :: js => exact .cons (write_mem_value j h.1) (writeItems_mem_values js h.2)

lemma writeFields_mem_members (fields : List (String × Json)) (h : FieldsFinite fields) :
    List.Forall₂ (fun s l => s.toList ∈ l) (writeFields fields) (members (fieldTrees fields)) := by
  match fields with
  | [] => exact .nil
  | (name, j) :: fields =>
    have hcolon : ": ".toList ∈ sign ':' := space_mem_sign ':'
    have hfield := append_mem_mul (quoted_mem_string name) hcolon (write_mem_value j h.1)
    exact .cons hfield (writeFields_mem_members fields h.2)

end

/-! ### Lines -/

/-- A visible ASCII character or the space. -/
def isVisible (c : Char) : Bool := 0x20 ≤ c.toNat && c.toNat < 0x7F

lemma isVisible_of_between {c low high : Char} (hlow : low ≤ c) (hhigh : c ≤ high)
    (h : isVisible low ∧ isVisible high) : isVisible c := by
  have hleast : low.toNat ≤ c.toNat := UInt32.le_iff_toNat_le.mp hlow
  have hmost : c.toNat ≤ high.toNat := UInt32.le_iff_toNat_le.mp hhigh
  simp only [isVisible, Bool.and_eq_true, decide_eq_true_eq] at h ⊢
  omega

lemma isVisible_of_isDigit {c : Char} (h : c.isDigit) : isVisible c := by
  simp only [Char.isDigit, Bool.and_eq_true, decide_eq_true_eq] at h
  exact isVisible_of_between h.1 h.2 (by decide)

lemma isVisible_of_isHexDigit {c : Char} (h : Pattern.isHexDigit c) : isVisible c := by
  simp only [Pattern.isHexDigit, Bool.or_eq_true, Bool.and_eq_true, decide_eq_true_eq] at h
  obtain (hdigit | hlower) | hupper := h
  · exact isVisible_of_isDigit hdigit
  · exact isVisible_of_between hlower.1 hlower.2 (by decide)
  · exact isVisible_of_between hupper.1 hupper.2 (by decide)

/-- A text on one line that closes its strings, and that has none of the two capitals outside of
them if and only if a condition holds. -/
structure Writes (P : Prop) (cs : List Char) : Prop where
  visible : cs.all isVisible
  closed : cs ∈ closed
  quiet_iff : cs ∈ quiet ↔ P

lemma Writes.append {P Q : Prop} {s t : String} (hs : Writes P s.toList)
    (ht : Writes Q t.toList) : Writes (P ∧ Q) (s ++ t).toList := by
  rw [String.toList_append]
  refine ⟨by rw [List.all_append, hs.visible, ht.visible, Bool.and_true],
    append_mem_closed hs.closed ht.closed, ?_⟩
  rw [append_mem_quiet_iff hs.closed, hs.quiet_iff, ht.quiet_iff]

lemma writes_of_quiet {cs : List Char} (hvisible : cs.all isVisible) (hquiet : cs ∈ quiet) :
    Writes True cs :=
  ⟨hvisible, hquiet.1, iff_true_intro hquiet⟩

/-- A text without quotes and the two capitals. -/
lemma writes_plain {cs : List Char} (hvisible : cs.all isVisible) (hplain : cs.all isPlain) :
    Writes True cs :=
  writes_of_quiet hvisible (mem_quiet_of_plain hplain)

/-- A text without quotes that has one of the two capitals. -/
lemma writes_word {cs : List Char} (hvisible : cs.all isVisible) (hclosed : cs ∈ closed)
    (hword : (outer .outside cs).all (!isCapital ·) = false) : Writes False cs := by
  refine ⟨hvisible, hclosed, iff_false_intro fun hquiet => ?_⟩
  exact Bool.false_ne_true (hword.symm.trans hquiet.2)

lemma writes_number {cs : List Char} (h : cs ∈ number) : Writes True cs := by
  refine writes_of_quiet (List.all_eq_true.mpr fun c hc => ?_) (number_le_quiet h)
  have hnumeric := List.all_eq_true.mp (number_le_numeric h) c hc
  rw [isNumeric, Bool.or_eq_true, decide_eq_true_eq] at hnumeric
  obtain hdigit | hsign := hnumeric
  · exact isVisible_of_isDigit hdigit
  · have hsigns : ['-', '+', '.', 'e', 'E'].all isVisible := rfl
    exact List.all_eq_true.mp hsigns c hsign

lemma writes_realText (x : Binary64) : Writes x.IsFinite (realText x).toList := by
  cases x with
  | nan => exact writes_word rfl rfl rfl
  | infinite negative =>
    cases negative with
    | false => exact writes_word rfl rfl rfl
    | true => exact writes_word rfl rfl rfl
  | finite negative m e => exact writes_number (realText_mem_number trivial)

lemma isVisible_charText (c : Char) : (charText c).all isVisible := by
  have hunit (n : Nat) : (unitEscape n).all isVisible := by
    have hhex : (Text.hexDigits 4 n).all isVisible :=
      List.all_eq_true.mpr fun d hd => isVisible_of_isHexDigit (isHexDigit_of_mem_hexDigits hd)
    rw [unitEscape, List.all_cons, List.all_cons, hhex]
    decide
  have hform := charForm_charText c
  generalize charText c = cs at hform ⊢
  cases hform with
  | letter h =>
    have hletters : ∀ p ∈ shortEscapes, ['\\', p.1].all isVisible := by decide
    exact hletters _ h
  | plain _ _ h =>
    rw [List.all_cons, isVisible, decide_eq_true h.1, decide_eq_true h.2]
    rfl
  | unit _ => exact hunit _
  | pair _ =>
    rw [List.all_append, hunit, hunit]
    rfl

lemma writes_quoted (s : String) : Writes True (quoted s).toList := by
  refine writes_of_quiet ?_ (string_le_quiet s (quoted_mem_string s))
  have hchars : s.toList.all (fun c => (charText c).all isVisible) :=
    List.all_eq_true.mpr fun c _ => isVisible_charText c
  rw [quoted, String.toList_ofList, List.all_cons, List.all_append, List.all_flatMap, hchars]
  rfl

/-- Parts with commas between them. -/
lemma writes_intercalate {P Q : Prop} {s : String} {ss : List String} (hs : Writes P s.toList)
    (hss : Writes Q (", ".intercalate ss).toList) :
    Writes (P ∧ Q) (", ".intercalate (s :: ss)).toList := by
  cases ss with
  | nil =>
    have hQ : Q := hss.quiet_iff.mp (mem_quiet_of_plain rfl)
    simpa [hQ] using hs
  | cons t ts =>
    have hcomma : Writes True ", ".toList := writes_plain rfl rfl
    rw [String.intercalate_cons_cons]
    simpa only [and_true] using (hs.append hcomma).append hss

mutual

lemma writes_write (j : Json) : Writes j.IsFinite (write j).toList := by
  match j with
  | .null => exact writes_plain rfl rfl
  | .bool true => exact writes_plain rfl rfl
  | .bool false => exact writes_plain rfl rfl
  | .int n => exact writes_number (numeral_mem_number n)
  | .real x => exact writes_realText x
  | .text s => exact writes_quoted s
  | .array items =>
    have hfront : Writes True "[".toList := writes_plain rfl rfl
    have hback : Writes True "]".toList := writes_plain rfl rfl
    have hall := (hfront.append (writes_items items)).append hback
    rw [true_and, and_true] at hall
    exact hall
  | .object fields =>
    have hfront : Writes True "\x7b".toList := writes_plain rfl rfl
    have hback : Writes True "\x7d".toList := writes_plain rfl rfl
    have hall := (hfront.append (writes_fields fields)).append hback
    rw [true_and, and_true] at hall
    exact hall

lemma writes_items (js : List Json) :
    Writes (AllFinite js) (", ".intercalate (writeItems js)).toList := by
  match js with
  | [] => exact writes_plain rfl rfl
  | j :: js => exact writes_intercalate (writes_write j) (writes_items js)

lemma writes_fields (fields : List (String × Json)) :
    Writes (FieldsFinite fields) (", ".intercalate (writeFields fields)).toList := by
  match fields with
  | [] => exact writes_plain rfl rfl
  | (name, j) :: fields =>
    have hcolon : Writes True ": ".toList := writes_plain rfl rfl
    have hfield := ((writes_quoted name).append hcolon).append (writes_write j)
    rw [true_and, true_and] at hfield
    exact writes_intercalate hfield (writes_fields fields)

end

/-- A document is written as one of the grammar. -/
lemma write_mem_document {j : Json} (h : j.IsFinite) : (write j).toList ∈ document j.tree :=
  mem_padded (write_mem_value j h)

/-- A text is written that stands for a document exactly if all numbers are finite. -/
lemma exists_write_mem_document_iff (j : Json) :
    (∃ t, (write j).toList ∈ document t) ↔ j.IsFinite := by
  constructor
  · rintro ⟨t, ht⟩
    exact (writes_write j).quiet_iff.mp (document_le_quiet t ht)
  · intro h
    exact ⟨j.tree, write_mem_document h⟩

end Json

end ValueSpec
