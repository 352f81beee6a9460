import Mathlib.Data.List.TakeWhile
import Mathlib.Data.Nat.Find
import Mathlib.Tactic.Lemma
import ValueSpec.Proofs.Splitting

namespace ValueSpec

/-- The number of backslashes directly before an index. -/
def backslashesBefore (cs : List Char) (i : Nat) : Nat :=
  ((cs.take i).reverse.takeWhile (· = '\\')).length

/-- A character stands at an index, after an even number of backslashes. -/
def Unescaped (c : Char) (cs : List Char) (i : Nat) : Prop :=
  cs[i]? = some c ∧ backslashesBefore cs i % 2 = 0

/-- The first index at which a character stands unescaped. -/
def FirstUnescaped (c : Char) (cs : List Char) (i : Nat) : Prop :=
  Unescaped c cs i ∧ ∀ j < i, ¬ Unescaped c cs j

instance (c : Char) (cs : List Char) (i : Nat) : Decidable (Unescaped c cs i) :=
  inferInstanceAs (Decidable (_ ∧ _))

instance (c : Char) (cs : List Char) (i : Nat) : Decidable (FirstUnescaped c cs i) :=
  inferInstanceAs (Decidable (_ ∧ _))

lemma Unescaped.lt_length {c : Char} {cs : List Char} {i : Nat} (h : Unescaped c cs i) :
    i < cs.length :=
  (List.getElem?_eq_some_iff.mp h.1).1

instance (c : Char) (cs : List Char) : Decidable (∀ i, ¬ Unescaped c cs i) :=
  decidable_of_iff (∀ i < cs.length, ¬ Unescaped c cs i)
    ⟨fun h i hi => h i hi.lt_length hi, fun h i _ => h i⟩

/-! ### Counting backslashes -/

@[simp] lemma backslashesBefore_zero (cs : List Char) : backslashesBefore cs 0 = 0 := rfl

/-- A backslash in front counts if there is nothing but backslashes between it and the index. -/
lemma backslashesBefore_cons (c : Char) (cs : List Char) (i : Nat) :
    backslashesBefore (c :: cs) (i + 1) =
      backslashesBefore cs i + if c = '\\' ∧ (cs.take i).all (· = '\\') then 1 else 0 := by
  have hall : ((cs.take i).reverse.takeWhile (· = '\\')).length = (cs.take i).reverse.length ↔
      (cs.take i).all (· = '\\') := by
    rw [← List.all_reverse, List.all_eq_true, ← List.takeWhile_eq_self_iff]
    exact ⟨(List.takeWhile_prefix _).eq_of_length, congrArg _⟩
  rw [backslashesBefore, List.take_succ_cons, List.reverse_cons, List.takeWhile_append]
  by_cases h : (cs.take i).all (· = '\\')
  · rw [if_pos (hall.mpr h), backslashesBefore, hall.mpr h]
    by_cases hc : c = '\\' <;> simp [hc, h]
  · rw [if_neg (mt hall.mp h), if_neg fun hboth => h hboth.2]
    rfl

lemma backslashesBefore_cons_of_ne {c : Char} (hc : c ≠ '\\') (cs : List Char) (i : Nat) :
    backslashesBefore (c :: cs) (i + 1) = backslashesBefore cs i := by
  rw [backslashesBefore_cons, if_neg fun h => hc h.1, Nat.add_zero]

/-- A backslash and the character after it leave the parity of later runs as it is. -/
lemma backslashesBefore_escape (d : Char) (cs : List Char) (i : Nat) :
    backslashesBefore ('\\' :: d :: cs) (i + 2) % 2 = backslashesBefore cs i % 2 := by
  have hboth : ('\\' = '\\' ∧ ((d :: cs).take (i + 1)).all (· = '\\')) ↔
      d = '\\' ∧ (cs.take i).all (· = '\\') := by
    rw [List.take_succ_cons, List.all_cons]
    simp
  rw [backslashesBefore_cons, backslashesBefore_cons, if_congr hboth rfl rfl]
  split_ifs <;> omega

/-- A backslash adds itself to the run before it, and any other character ends the run. -/
lemma backslashesBefore_succ {c : Char} {cs : List Char} {i : Nat} (h : cs[i]? = some c) :
    backslashesBefore cs (i + 1) = if c = '\\' then backslashesBefore cs i + 1 else 0 := by
  rw [backslashesBefore, List.take_add_one, h, Option.toList_some, List.reverse_concat,
    List.takeWhile_cons]
  by_cases hc : c = '\\' <;> simp [hc, backslashesBefore]

lemma backslashesBefore_append {cs : List Char} {i : Nat} (h : i ≤ cs.length) (ds : List Char) :
    backslashesBefore (cs ++ ds) i = backslashesBefore cs i := by
  rw [backslashesBefore, List.take_append_of_le_length h, backslashesBefore]

lemma backslashesBefore_eq_zero {cs : List Char} (h : '\\' ∉ cs) (i : Nat) :
    backslashesBefore cs i = 0 := by
  have hall : ∀ c ∈ (cs.take i).reverse, c ≠ '\\' := by
    rintro c hc rfl
    exact h (List.mem_of_mem_take (List.mem_reverse.mp hc))
  rw [backslashesBefore, List.length_eq_zero_iff, List.takeWhile_eq_nil_iff]
  intro hpos
  simpa using hall _ (List.getElem_mem hpos)

/-! ### Unescaped characters of a text -/

namespace Unescaped

variable {t : Char} {cs : List Char} {i : Nat}

@[simp] lemma nil_iff : Unescaped t [] i ↔ False := by
  simp [Unescaped]

@[simp] lemma zero_iff {c : Char} : Unescaped t (c :: cs) 0 ↔ c = t := by
  simp [Unescaped]

lemma cons_iff {c : Char} (hc : c ≠ '\\') :
    Unescaped t (c :: cs) (i + 1) ↔ Unescaped t cs i := by
  rw [Unescaped, backslashesBefore_cons_of_ne hc, List.getElem?_cons_succ, Unescaped]

/-- What stands after a first backslash is escaped. -/
lemma not_one {d : Char} : ¬ Unescaped t ('\\' :: d :: cs) 1 := by
  rintro ⟨-, hparity⟩
  simp [backslashesBefore_cons] at hparity

lemma escape_iff {d : Char} : Unescaped t ('\\' :: d :: cs) (i + 2) ↔ Unescaped t cs i := by
  rw [Unescaped, backslashesBefore_escape, List.getElem?_cons_succ, List.getElem?_cons_succ,
    Unescaped]

lemma mem (h : Unescaped t cs i) : t ∈ cs := List.mem_of_getElem? h.1

/-- What follows does not matter for what stands before it. -/
lemma append_iff (h : i < cs.length) (ds : List Char) :
    Unescaped t (cs ++ ds) i ↔ Unescaped t cs i := by
  rw [Unescaped, Unescaped, backslashesBefore_append h.le, List.getElem?_append_left h]

end Unescaped

lemma exists_firstUnescaped {t : Char} {cs : List Char} (h : ¬ ∀ i, ¬ Unescaped t cs i) :
    ∃ i, FirstUnescaped t cs i := by
  have hsome : ∃ i, Unescaped t cs i := not_forall_not.mp h
  exact ⟨Nat.find hsome, Nat.find_spec hsome, fun _ hj => Nat.find_min hsome hj⟩

/-- Behind a first character that is not the one that is sought, the search goes on. -/
lemma FirstUnescaped.succ_iff {t c : Char} {cs : List Char} {i : Nat} :
    FirstUnescaped t (c :: cs) (i + 1) ↔
      c ≠ t ∧ Unescaped t (c :: cs) (i + 1) ∧ ∀ j < i, ¬ Unescaped t (c :: cs) (j + 1) := by
  rw [FirstUnescaped, Nat.forall_lt_succ_left, Unescaped.zero_iff, and_left_comm]

/-- After a text in which it is not unescaped, a character is the first that is unescaped. -/
lemma FirstUnescaped.of_append {t : Char} {cs : List Char} (hcs : ∀ i, ¬ Unescaped t cs i)
    (heven : backslashesBefore cs cs.length % 2 = 0) (ds : List Char) :
    FirstUnescaped t (cs ++ t :: ds) cs.length := by
  refine ⟨⟨by simp, ?_⟩, ?_⟩
  · rw [backslashesBefore_append le_rfl, heven]
  · intro j hj
    rw [Unescaped.append_iff hj]
    exact hcs j

/-! ### Searching -/

namespace Glyph

variable {t : Char}

theorem indexOf?_eq_some_iff (ht : t ≠ '\\') {cs : List Char} {i : Nat} :
    indexOf? t (ofChars cs) = some i ↔ FirstUnescaped t cs i := by
  induction cs using ofChars_induction generalizing i with
  | nil => simp [indexOf?, FirstUnescaped]
  | dangling =>
    cases i <;> simp [ofChars, indexOf?, startsWith, FirstUnescaped, Unescaped, Ne.symm ht, ht]
  | escaped d rest ih =>
    rw [ofChars_backslash, indexOf?, startsWith]
    obtain _ | _ | i := i
    · simp [FirstUnescaped, Ne.symm ht, ht, width]
    · simp [FirstUnescaped, Unescaped.not_one, Ne.symm ht, ht, width]
    · -- neither the backslash nor the character after it can be what is sought
      have hskip : FirstUnescaped t ('\\' :: d :: rest) (i + 2) ↔ FirstUnescaped t rest i := by
        simp only [FirstUnescaped.succ_iff, Nat.forall_lt_succ_left, Unescaped.escape_iff]
        simp [FirstUnescaped, Unescaped.not_one, Ne.symm ht]
      rw [hskip, ← ih]
      simp [ht, width]
  | plain c rest hc ih =>
    -- the first character is the one that is sought, or it is passed over
    rw [ofChars_cons hc, indexOf?, startsWith]
    by_cases hct : c = t
    · cases i with
      | zero => simp [FirstUnescaped, hct]
      | succ i => simp [FirstUnescaped.succ_iff, hct]
    · cases i with
      | zero => simp [FirstUnescaped, hct, width]
      | succ i =>
        simp only [FirstUnescaped.succ_iff, Unescaped.cons_iff hc, ← FirstUnescaped.eq_1, ← ih]
        simp [hct, width]

end Glyph

section

variable {s : String} {t : Char}

/-- The search finds the first character that is unescaped. -/
theorem findUnescaped?_eq_some_iff (ht : t ≠ '\\') {i : Nat} :
    findUnescaped? s t = some i ↔ FirstUnescaped t s.toList i :=
  Glyph.indexOf?_eq_some_iff ht

/-- The search finds nothing if no character that is sought is unescaped. -/
theorem findUnescaped?_eq_none_iff (ht : t ≠ '\\') :
    findUnescaped? s t = none ↔ ∀ i, ¬ Unescaped t s.toList i := by
  constructor
  · intro hnone
    by_contra h
    obtain ⟨i, hi⟩ := exists_firstUnescaped h
    rw [← findUnescaped?_eq_some_iff ht, hnone] at hi
    cases hi
  · intro h
    rw [Option.eq_none_iff_forall_ne_some]
    intro i hi
    exact h i ((findUnescaped?_eq_some_iff ht).mp hi).1

end

end ValueSpec
