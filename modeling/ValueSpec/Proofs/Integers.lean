import Mathlib.Data.List.Induction
import Mathlib.Tactic.Lemma
import Mathlib.Tactic.SplitIfs
import ValueSpec.Number.Integer

namespace ValueSpec

/-- A numeral with so many digits that it is not read. -/
structure Overlong (text : String) (count : Nat) : Prop where
  long : Integer.digitLimit < count
  written : ∃ sign digits, sign ∈ [[], ['+'], ['-']] ∧ text.toList = sign ++ digits ∧
    digits.length = count ∧ ∀ c ∈ digits, c.isDigit

lemma Overlong.ofList {cs : List Char} (hlong : Integer.digitLimit < cs.length)
    (hdigits : ∀ c ∈ cs, c.isDigit) : Overlong (String.ofList cs) cs.length :=
  ⟨hlong, [], cs, by simp, by simp, rfl, hdigits⟩

namespace Integer

/-- A text is an optional sign and at least one digit. -/
def IsPlain (text : String) : Prop :=
  ∃ sign digits, sign ∈ [[], ['+'], ['-']] ∧ text.toList = sign ++ digits ∧ digits ≠ [] ∧
    ∀ c ∈ digits, c.isDigit

/-- The signs of an integer. Zero can have either, and none is needed where there is no minus. -/
inductive IsSign : List Char → Int → Prop
  | none {n : Int} : 0 ≤ n → IsSign [] n
  | plus {n : Int} : 0 ≤ n → IsSign ['+'] n
  | minus {n : Int} : n ≤ 0 → IsSign ['-'] n

/-- A text is a sign of an integer, any number of zeros and the digits of the integer, and it is not
too long to be read. -/
structure Denotes (text : String) (n : Int) : Prop where
  written : ∃ sign zeros, IsSign sign n ∧
    text.toList = sign ++ (List.replicate zeros '0' ++ Nat.toDigits 10 n.natAbs)
  short : ∀ count, ¬ Overlong text count

/-! ### Signs -/

lemma takeSign_append (cs : List Char) :
    ∃ sign ∈ [[], ['+'], ['-']], cs = sign ++ (takeSign cs).2 := by
  unfold takeSign
  split
  · exact ⟨['-'], by simp, rfl⟩
  · exact ⟨['+'], by simp, rfl⟩
  · exact ⟨[], by simp, rfl⟩

lemma takeSign_digits {sign digits : List Char} (hsign : sign ∈ [[], ['+'], ['-']])
    (hdigits : ∀ c ∈ digits, c.isDigit) (hne : digits ≠ []) :
    takeSign (sign ++ digits) = (sign == ['-'], digits) := by
  simp only [List.mem_cons, List.not_mem_nil, or_false] at hsign
  rcases hsign with rfl | rfl | rfl
  · obtain ⟨d, rest, rfl⟩ := List.exists_cons_of_ne_nil hne
    have hd := hdigits d (by simp)
    have hminus : d ≠ '-' := by
      rintro rfl
      exact absurd hd (by decide)
    have hplus : d ≠ '+' := by
      rintro rfl
      exact absurd hd (by decide)
    rw [List.nil_append]
    unfold takeSign
    split
    · exact absurd (List.cons.inj ‹_›).1 hminus
    · exact absurd (List.cons.inj ‹_›).1 hplus
    · rfl
  · rfl
  · rfl

lemma isSign_iff {sign : List Char} {n : Int} :
    IsSign sign n ↔ sign ∈ [[], ['+'], ['-']] ∧ signed (sign == ['-']) n.natAbs = n := by
  constructor
  · rintro (h | h | h)
    · exact ⟨by simp, Int.natAbs_of_nonneg h⟩
    · exact ⟨by simp, Int.natAbs_of_nonneg h⟩
    · have habs : -(n.natAbs : Int) = n := by omega
      exact ⟨by simp, habs⟩
  · rintro ⟨hmem, hsigned⟩
    simp only [List.mem_cons, List.not_mem_nil, or_false] at hmem
    rcases hmem with rfl | rfl | rfl
    · have habs : (n.natAbs : Int) = n := hsigned
      exact .none (by omega)
    · have habs : (n.natAbs : Int) = n := hsigned
      exact .plus (by omega)
    · have habs : -(n.natAbs : Int) = n := hsigned
      exact .minus (by omega)

lemma natAbs_signed (negative : Bool) (m : Nat) : (signed negative m).natAbs = m := by
  cases negative <;> simp

/-! ### Digits -/

lemma ofDigits_eq_ofDigitChars (digits : List Char) :
    ofDigits (digits.map asciiDigit) = Nat.ofDigitChars 10 digits 0 := by
  rw [ofDigits, List.foldl_map, Nat.ofDigitChars_eq_foldl]
  rfl

/-- Zeros in front do not count. -/
lemma ofDigitChars_zeros (zeros m : Nat) :
    Nat.ofDigitChars 10 (List.replicate zeros '0' ++ Nat.toDigits 10 m) 0 = m := by
  rw [Nat.ofDigitChars_append, Nat.ofDigitChars_replicate_zero, Nat.mul_zero,
    Nat.ofDigitChars_ten_toDigits]

/-- Zeros and the digits of a number. -/
lemma forall_isDigit (zeros m : Nat) :
    ∀ c ∈ List.replicate zeros '0' ++ Nat.toDigits 10 m, c.isDigit := by
  intro c hc
  rcases List.mem_append.mp hc with hzero | hdigit
  · rw [List.eq_of_mem_replicate hzero]
    rfl
  · exact Nat.isDigit_of_mem_toDigits (by decide) (by decide) hdigit

lemma exists_digitChar {c : Char} (h : c.isDigit) : ∃ d < 10, c = Nat.digitChar d := by
  have hrange : 48 ≤ c.toNat ∧ c.toNat ≤ 57 := by
    simpa [Char.isDigit, UInt32.le_iff_toNat_le] using h
  refine ⟨c.toNat - 48, by omega, ?_⟩
  apply Char.toNat_inj.mp
  rw [Nat.toNat_digitChar_of_lt_ten (by omega)]
  omega

/-- Digits are zeros and then the digits of the number that they make. -/
lemma exists_zeros {digits : List Char} (hdigits : ∀ c ∈ digits, c.isDigit) (hne : digits ≠ []) :
    ∃ zeros, digits =
      List.replicate zeros '0' ++ Nat.toDigits 10 (Nat.ofDigitChars 10 digits 0) := by
  induction digits using List.reverseRecOn with
  | nil => exact absurd rfl hne
  | append_singleton digits c ih =>
    obtain ⟨d, hd, rfl⟩ := exists_digitChar (hdigits c (by simp))
    have hlast (m : Nat) : Nat.ofDigitChars 10 [Nat.digitChar d] m = 10 * m + d := by
      rw [Nat.ofDigitChars_cons_digitChar_of_lt_ten hd, Nat.ofDigitChars_nil]
    rw [Nat.ofDigitChars_append, hlast]
    by_cases hnil : digits = []
    · refine ⟨0, ?_⟩
      simp [hnil, Nat.toDigits_of_lt_base hd]
    · obtain ⟨zeros, hzeros⟩ := ih (fun c hc => hdigits c (by simp [hc])) hnil
      generalize Nat.ofDigitChars 10 digits 0 = m at hzeros ⊢
      by_cases hm : m = 0
      · -- the one digit of zero is one more zero in front
        refine ⟨zeros + 1, ?_⟩
        rw [hzeros, hm, Nat.mul_zero, Nat.zero_add, Nat.toDigits_of_lt_base hd, Nat.toDigits_zero,
          List.replicate_succ']
      · refine ⟨zeros, ?_⟩
        rw [hzeros, ← Nat.toDigits_append_toDigits (by decide) (Nat.pos_of_ne_zero hm) hd,
          Nat.toDigits_of_lt_base hd, List.append_assoc]

/-! ### Reading -/

/-- A plain numeral is read unless it has too many digits. -/
lemma read_eq {text : String} {sign digits : List Char} (hsign : sign ∈ [[], ['+'], ['-']])
    (htext : text.toList = sign ++ digits) (hne : digits ≠ []) (hdigits : ∀ c ∈ digits, c.isDigit) :
    read text =
      if digitLimit < digits.length then .error (.tooManyDigits digits.length)
      else .ok (some (signed (sign == ['-']) (Nat.ofDigitChars 10 digits 0))) := by
  have hplain : ¬ (digits.isEmpty || !digits.all Char.isDigit) := by
    have hall : digits.all Char.isDigit = true := List.all_eq_true.mpr hdigits
    simpa [hall] using hne
  unfold read
  rw [htext, takeSign_digits hsign hdigits hne]
  dsimp only
  rw [if_neg hplain, ofDigits_eq_ofDigitChars]

/-- What is no plain numeral is read as nothing, and nothing else is. -/
lemma read_eq_none_iff {text : String} : read text = .ok none ↔ ¬ IsPlain text := by
  constructor
  · rintro h ⟨sign, digits, hsign, htext, hne, hdigits⟩
    rw [read_eq hsign htext hne hdigits] at h
    split_ifs at h
    cases h
  · intro h
    unfold read
    dsimp only
    rw [if_pos]
    by_contra hdigits
    obtain ⟨sign, hsign, htext⟩ := takeSign_append text.toList
    refine h ⟨sign, _, hsign, htext, ?_, ?_⟩
    · intro hnil
      simp [hnil] at hdigits
    · simp only [Bool.or_eq_true, not_or, Bool.not_eq_true, Bool.not_eq_false', List.all_eq_true]
        at hdigits
      exact hdigits.2

/-- Reading an integer fails on long numerals, and on nothing else. -/
lemma read_eq_error_iff {text : String} {f : Fault} :
    read text = .error f ↔ ∃ count, Overlong text count ∧ f = .tooManyDigits count := by
  constructor
  · intro h
    have hplain : IsPlain text := by
      by_contra hplain
      rw [read_eq_none_iff.mpr hplain] at h
      cases h
    obtain ⟨sign, digits, hsign, htext, hne, hdigits⟩ := hplain
    rw [read_eq hsign htext hne hdigits] at h
    split_ifs at h with hlong
    obtain rfl := Except.error.inj h
    exact ⟨_, ⟨hlong, sign, digits, hsign, htext, rfl, hdigits⟩, rfl⟩
  · rintro ⟨count, ⟨hlong, sign, digits, hsign, htext, rfl, hdigits⟩, rfl⟩
    have hne : digits ≠ [] := by
      rintro rfl
      simp [digitLimit] at hlong
    rw [read_eq hsign htext hne hdigits, if_pos hlong]

lemma read_of_overlong {text : String} {count : Nat} (h : Overlong text count) :
    read text = .error (.tooManyDigits count) := read_eq_error_iff.mpr ⟨count, h, rfl⟩

/-- A text has one number of digits. -/
lemma overlong_unique {text : String} {m n : Nat} (hm : Overlong text m) (hn : Overlong text n) :
    m = n := by
  have hread := read_of_overlong hm
  rw [read_of_overlong hn] at hread
  exact (Fault.tooManyDigits.inj (Except.error.inj hread)).symm

/-- What denotes an integer is read as it, and nothing else is. -/
lemma read_eq_some_iff {text : String} {n : Int} : read text = .ok (some n) ↔ Denotes text n := by
  constructor
  · intro h
    have hplain : IsPlain text := by
      by_contra hplain
      rw [read_eq_none_iff.mpr hplain] at h
      cases h
    have hshort : ∀ count, ¬ Overlong text count := by
      intro count hlong
      rw [read_eq_error_iff.mpr ⟨count, hlong, rfl⟩] at h
      cases h
    obtain ⟨sign, digits, hsign, htext, hne, hdigits⟩ := hplain
    rw [read_eq hsign htext hne hdigits] at h
    split_ifs at h
    obtain rfl := Option.some.inj (Except.ok.inj h)
    obtain ⟨zeros, hzeros⟩ := exists_zeros hdigits hne
    refine ⟨⟨sign, zeros, isSign_iff.mpr ⟨hsign, ?_⟩, ?_⟩, hshort⟩
    · rw [natAbs_signed]
    · rw [natAbs_signed, htext, ← hzeros]
  · rintro ⟨⟨sign, zeros, hsign, htext⟩, hshort⟩
    obtain ⟨hmem, hsigned⟩ := isSign_iff.mp hsign
    have hne : List.replicate zeros '0' ++ Nat.toDigits 10 n.natAbs ≠ [] := by simp
    rw [read_eq hmem htext hne (forall_isDigit _ _), if_neg, ofDigitChars_zeros, hsigned]
    exact fun hlong => hshort _ ⟨hlong, sign, _, hmem, htext, rfl, forall_isDigit _ _⟩

namespace Denotes

variable {text : String} {n : Int}

lemma isPlain (h : Denotes text n) : IsPlain text := by
  by_contra hplain
  have hread := read_eq_some_iff.mpr h
  rw [read_eq_none_iff.mpr hplain] at hread
  cases hread

/-- What has been read can be written. -/
lemma isShort (h : Denotes text n) : Integer.isShort n := by
  obtain ⟨⟨sign, zeros, hsign, htext⟩, hshort⟩ := h
  by_contra hn
  rw [Integer.isShort, decide_eq_true_eq, Nat.not_le] at hn
  have hlong : digitLimit < (List.replicate zeros '0' ++ Nat.toDigits 10 n.natAbs).length := by
    rw [List.length_append]
    omega
  exact hshort _ ⟨hlong, sign, _, (isSign_iff.mp hsign).1, htext, rfl, forall_isDigit _ _⟩

/-- A text denotes at most one integer. -/
lemma unique {m : Int} (h : Denotes text n) (h' : Denotes text m) : n = m := by
  have hread := read_eq_some_iff.mpr h
  rw [read_eq_some_iff.mpr h'] at hread
  exact (Option.some.inj (Except.ok.inj hread)).symm

end Denotes

/-- A plain numeral denotes an integer unless it is too long. -/
lemma exists_denotes_iff {text : String} (h : ∀ count, ¬ Overlong text count) :
    (∃ n, Denotes text n) ↔ IsPlain text := by
  constructor
  · rintro ⟨n, hn⟩
    exact hn.isPlain
  · intro hplain
    rcases hread : read text with f | _ | n
    · obtain ⟨count, hlong, -⟩ := read_eq_error_iff.mp hread
      exact absurd hlong (h count)
    · exact absurd hplain (read_eq_none_iff.mp hread)
    · exact ⟨n, read_eq_some_iff.mp hread⟩

end Integer

end ValueSpec
