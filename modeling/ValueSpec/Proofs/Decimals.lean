import Mathlib.Algebra.Order.Field.Power
import Mathlib.Data.List.DropRight
import Mathlib.Data.Rat.Cast.Order
import Mathlib.Tactic.FieldSimp
import Mathlib.Tactic.Positivity
import Mathlib.Tactic.Ring
import ValueSpec.Number.Decimal

namespace ValueSpec

open Binary64 (decimalLength roundHalfEven scale)

/-! ### Digits of natural numbers -/

lemma head?_toDigits {n : Nat} (h : 0 < n) : (Nat.toDigits 10 n).head? ≠ some '0' := by
  induction n using Nat.strong_induction_on with
  | h n ih =>
    rw [Nat.toDigits_eq_if (by decide)]
    split_ifs with hn
    · simp only [List.head?_cons, ne_eq, Option.some.injEq, Nat.digitChar_eq_zero]
      omega
    · rw [List.head?_append_of_ne_nil _ Nat.toDigits_ne_nil]
      exact ih _ (by omega) (by omega)

lemma lt_pow_decimalLength (n : Nat) : n < 10 ^ decimalLength n :=
  (Nat.length_toDigits_le_iff (by decide) Nat.length_toDigits_pos).mp le_rfl

lemma pow_decimalLength_le {n : Nat} (h : 0 < n) : 10 ^ (decimalLength n - 1) ≤ n := by
  by_cases hlength : decimalLength n - 1 = 0
  · rw [hlength]
    omega
  · by_contra hlt
    have hle := (Nat.length_toDigits_le_iff (by decide) (by omega)).mpr (not_le.mp hlt)
    have hdef : decimalLength n = (Nat.toDigits 10 n).length := rfl
    omega

/-! ### Scaled fractions -/

section

variable {base : Nat} (hbase : 0 < base)

include hbase

lemma scale_fst_pos {num : Nat} (hnum : 0 < num) (den : Nat) (e : Int) :
    0 < (scale base num den e).1 := by
  cases e with
  | ofNat e => exact hnum
  | negSucc e => exact Nat.mul_pos hnum (Nat.pow_pos hbase)

lemma scale_snd_pos (num : Nat) {den : Nat} (hden : 0 < den) (e : Int) :
    0 < (scale base num den e).2 := by
  cases e with
  | ofNat e => exact Nat.mul_pos hden (Nat.pow_pos hbase)
  | negSucc e => exact hden

/-- A scaled fraction is the fraction divided by a power. -/
lemma scale_ratio (num den : Nat) (e : Int) :
    ((scale base num den e).1 : ℚ) / (scale base num den e).2 = num / den / (base : ℚ) ^ e := by
  have hbase' : (base : ℚ) ≠ 0 := by positivity
  cases e with
  | ofNat e =>
    simp [scale]
    field_simp
  | negSucc e =>
    simp [scale, zpow_negSucc]
    field_simp

end

namespace Decimal

/-! ### Normal decimals -/

/-- A decimal with digits, of which only that of zero begins with a zero. -/
structure Normal (d : Decimal) : Prop where
  digits : ∀ c ∈ d.digits, c.isDigit
  nonempty : d.digits ≠ []
  leading : d.digits.head? = some '0' → d = ⟨['0'], 1⟩

lemma normal_zero : Normal ⟨['0'], 1⟩ :=
  ⟨List.forall_mem_singleton.mpr rfl, List.cons_ne_nil _ _, fun _ => rfl⟩

lemma normal_ofGrid (n : Nat) (point : Int) {c : Nat} (hc : 0 < c) : (ofGrid n point c).Normal := by
  have hfront : significantDigits c <+: Nat.toDigits 10 c := List.rdropWhile_prefix _ _
  have hne : significantDigits c ≠ [] := by
    intro hnil
    have hzeros := List.rdropWhile_eq_nil_iff.mp hnil
    apply head?_toDigits hc
    rw [List.head?_eq_some_head Nat.toDigits_ne_nil]
    simpa using hzeros _ (List.head_mem Nat.toDigits_ne_nil)
  refine ⟨?_, hne, ?_⟩
  · intro d hd
    exact Nat.isDigit_of_mem_toDigits (by decide) (by decide) (hfront.subset hd)
  · intro hhead
    obtain ⟨rest, hrest⟩ := hfront
    have hfirst : (Nat.toDigits 10 c).head? = some '0' := by
      rw [← hrest, List.head?_append_of_ne_nil _ hne]
      exact hhead
    exact absurd hfirst (head?_toDigits hc)

lemma le_roundHalfEven (num den : Nat) : num / den ≤ roundHalfEven num den := by
  unfold roundHalfEven
  dsimp only
  split_ifs <;> omega

/-! ### The fewest digits that read back -/

lemma fraction_pos {m : Nat} (hm : 0 < m) (e : Int) :
    0 < (fraction m e).1 ∧ 0 < (fraction m e).2 :=
  ⟨scale_fst_pos (by decide) hm _ _, scale_snd_pos (by decide) _ (by decide) _⟩

/-- Nothing but zero reads back as zero. -/
lemma pos_of_readsBack {m : Nat} (hm : 0 < m) {e : Int} {n : Nat} {point : Int} {c : Nat}
    (h : readsBack m e n point c) : 0 < c := by
  by_contra hc
  obtain rfl : c = 0 := by omega
  have hzero : ∀ k, (scale 10 0 1 k).1 = 0 := by
    intro k
    cases k <;> simp [scale]
  unfold readsBack at h
  dsimp only at h
  generalize hlow : (if m = Nat.pow 2 52 && Binary64.minExponent < e then 4 * m - 1
    else 4 * m - 2) = low at h
  have hpos : 0 < low := by
    rw [← hlow]
    split_ifs <;> omega
  have hleft := Nat.mul_pos (fraction_pos hpos (e - 2)).1
    (scale_snd_pos (by decide : 0 < 10) 0 Nat.one_pos ((n : Int) - point))
  rw [hzero, Nat.zero_mul] at h
  split_ifs at h <;> rw [Bool.and_eq_true, decide_eq_true_eq] at h <;> omega

lemma normal_onGrid {m : Nat} (hm : 0 < m) {e point : Int} {n : Nat} {d : Decimal}
    (h : onGrid m e point n = some d) : d.Normal := by
  unfold onGrid at h
  dsimp only at h
  generalize hgrid : scale 10 (fraction m e).1 (fraction m e).2 (point - n) = g at h
  split at h
  case h_1 hback _ =>
    obtain rfl := Option.some.inj h
    exact normal_ofGrid _ _ ((pos_of_readsBack hm hback).trans_le (le_roundHalfEven _ _))
  case h_2 hback _ =>
    obtain rfl := Option.some.inj h
    exact normal_ofGrid _ _ (pos_of_readsBack hm hback)
  case h_3 =>
    obtain rfl := Option.some.inj h
    exact normal_ofGrid _ _ (Nat.succ_pos _)
  case h_4 => cases h

/-! ### The nearest digits -/

/-- The point of a fraction is not too far to the right. -/
lemma pow_pointOf_le {num den : Nat} (hnum : 0 < num) (hden : 0 < den) :
    (10 : ℚ) ^ (pointOf num den - 1) ≤ num / den := by
  unfold pointOf
  dsimp only
  set k : Int := (decimalLength num : Int) - decimalLength den with hk
  have hratio := scale_ratio (by decide : 0 < 10) num den k
  have hpos := scale_snd_pos (by decide : 0 < 10) num hden k
  generalize scale 10 num den k = g at hratio hpos
  -- the difference of the lengths is right or one too large, which a comparison tells
  split_ifs with hlt
  · have hlow : (10 : ℚ) ^ (decimalLength num - 1) ≤ num := by
      exact_mod_cast pow_decimalLength_le hnum
    have hhigh : (den : ℚ) ≤ 10 ^ decimalLength den := by
      exact_mod_cast (lt_pow_decimalLength den).le
    have hlength : 0 < decimalLength num := Nat.length_toDigits_pos
    have hpower : k - 1 = ((decimalLength num - 1 : Nat) : Int) - (decimalLength den : Nat) := by
      omega
    rw [hpower, zpow_sub₀ (by norm_num), zpow_natCast, zpow_natCast]
    have hden' : (0 : ℚ) < den := by exact_mod_cast hden
    exact div_le_div₀ (by positivity) hlow hden' hhigh
  · have hone : (1 : ℚ) ≤ (g.1 : ℚ) / g.2 := by
      rw [one_le_div (by exact_mod_cast hpos)]
      exact_mod_cast not_lt.mp hlt
    rw [hratio, le_div_iff₀ (by positivity), one_mul] at hone
    simpa using hone

lemma normal_nearest {n : Nat} (hn : 0 < n) (m : Nat) (e : Int) : (nearest n m e).Normal := by
  unfold nearest
  split_ifs with hm
  · exact normal_zero
  · dsimp only
    apply normal_ofGrid
    refine Nat.lt_of_lt_of_le ?_ (le_roundHalfEven _ _)
    obtain ⟨hnum, hden⟩ := fraction_pos (Nat.pos_of_ne_zero hm) e
    generalize fraction m e = f at hnum hden
    have hpoint := pow_pointOf_le hnum hden
    have hratio := scale_ratio (by decide : 0 < 10) f.1 f.2 (pointOf f.1 f.2 - n)
    have hpos := scale_snd_pos (by decide : 0 < 10) f.1 hden (pointOf f.1 f.2 - n)
    generalize scale 10 f.1 f.2 (pointOf f.1 f.2 - n) = g at hratio hpos
    have hgrid : (10 : ℚ) ^ (pointOf f.1 f.2 - n) ≤ f.1 / f.2 :=
      (zpow_le_zpow_right₀ (by norm_num) (by omega)).trans hpoint
    have hone : (1 : ℚ) ≤ (g.1 : ℚ) / g.2 := by
      rw [hratio, le_div_iff₀ (by positivity), one_mul]
      exact_mod_cast hgrid
    rw [one_le_div (by exact_mod_cast hpos)] at hone
    exact Nat.div_pos (by exact_mod_cast hone) hpos

/-- The shortest digits of a number are a numeral. -/
lemma normal_shortest (m : Nat) (e : Int) : (shortest m e).Normal := by
  unfold shortest
  split_ifs with hm
  · exact normal_zero
  · dsimp only
    split
    case h_1 d hfound =>
      obtain ⟨i, -, hi⟩ := List.exists_of_findSome?_eq_some hfound
      exact normal_onGrid (Nat.pos_of_ne_zero hm) hi
    case h_2 => exact normal_nearest (by decide) m e

end Decimal

end ValueSpec
