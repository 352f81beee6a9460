import Mathlib.Tactic.Lemma
import Mathlib.Tactic.SplitIfs
import ValueSpec.Number.Numeral
import ValueSpec.Proofs.Text

namespace ValueSpec.Binary64

open Integer

/-- Can a character be a part of a numeral? -/
def IsNumeralChar (c : Char) : Prop := c ∈ ['+', '-', '.'] ∨ c.isAlpha ∨ Text.isDigit c

/-! ### Digits of any script -/

/-- Digits of any script are not blank, and those of ASCII are the ten that it has. -/
lemma ordinary_of_isDigit {c : Char} (h : Text.isDigit c) :
    Text.isBlank c = false ∧ (c.toNat < 128 → c.isDigit) := by
  have hdigits : ∀ z ∈ Text.digitZeros, ∀ d < 10, Text.isBlank (Char.ofNat (z + d)) = false ∧
      ((Char.ofNat (z + d)).toNat < 128 → (Char.ofNat (z + d)).isDigit) := by decide +kernel
  rw [Text.isDigit, Text.digitValue?, Option.isSome_map, List.find?_isSome] at h
  obtain ⟨z, hz, hrange⟩ := h
  obtain ⟨hlo, hhi⟩ : z ≤ c.toNat ∧ c.toNat < z + 10 := by simpa using hrange
  have hchar := hdigits z hz (c.toNat - z) (by omega)
  rwa [Nat.add_sub_cancel' hlo, Char.ofNat_toNat] at hchar

lemma isDigit_of_ascii {c : Char} (h : c.isDigit) : Text.isDigit c := by
  have hrange : 48 ≤ c.toNat ∧ c.toNat ≤ 57 := by
    simpa [Char.isDigit, UInt32.le_iff_toNat_le] using h
  have hzero : '0'.toNat ∈ Text.digitZeros := by decide
  rw [Text.isDigit, Text.digitValue?, Option.isSome_map, List.find?_isSome]
  refine ⟨'0'.toNat, hzero, ?_⟩
  have htoNat : '0'.toNat = 48 := rfl
  simp only [htoNat, Bool.and_eq_true, decide_eq_true_eq]
  omega

namespace IsNumeralChar

variable {c : Char} (h : IsNumeralChar c)

include h

lemma not_isBlank : Text.isBlank c = false := by
  rcases h with hsign | halpha | hdigit
  · have hsigns : ['+', '-', '.'].all (!Text.isBlank ·) := by decide
    simpa using List.all_eq_true.mp hsigns c hsign
  · exact (Text.ordinary_of_isAlpha halpha).1
  · exact (ordinary_of_isDigit hdigit).1

/-- Other characters of ASCII are no parts of a numeral. -/
lemma not_mem {marks : List Char}
    (hmarks : marks.all fun m => m.toNat < 128 ∧ m ∉ ['+', '-', '.'] ∧ m.isAlphanum = false) :
    c ∉ marks := by
  intro hmem
  obtain ⟨hascii, hsign, hother⟩ := of_decide_eq_true (List.all_eq_true.mp hmarks c hmem)
  obtain ⟨halpha, hdigit⟩ := Bool.or_eq_false_iff.mp hother
  rcases h with hsign' | halpha' | hdigit'
  · exact hsign hsign'
  · simp [halpha] at halpha'
  · simp [(ordinary_of_isDigit hdigit').2 hascii] at hdigit

end IsNumeralChar

/-- What begins with digits is these digits and the rest. -/
lemma takeDigits_append (cs : List Char) :
    ∃ digits, cs = digits ++ (takeDigits cs).2 ∧ ∀ c ∈ digits, Text.isDigit c := by
  induction cs with
  | nil => exact ⟨[], rfl, by simp⟩
  | cons c cs ih =>
    rw [takeDigits]
    cases hdigit : Text.digitValue? c with
    | none => exact ⟨[], rfl, by simp⟩
    | some d =>
      obtain ⟨digits, hcs, hdigits⟩ := ih
      refine ⟨c :: digits, ?_, ?_⟩
      · rw [List.cons_append]
        exact congrArg (c :: ·) hcs
      · exact List.forall_mem_cons.mpr ⟨by simp [Text.isDigit, hdigit], hdigits⟩

/-! ### Numerals -/

lemma IsNumeralChar.of_isDigit {c : Char} (h : Text.isDigit c) : IsNumeralChar c := .inr (.inr h)

/-- A sign in front can be a part of a numeral as well. -/
lemma takeSign_numeral {cs : List Char} (h : ∀ c ∈ (takeSign cs).2, IsNumeralChar c) :
    ∀ c ∈ cs, IsNumeralChar c := by
  unfold takeSign at h
  split at h
  · exact List.forall_mem_cons.mpr ⟨.inl (by simp), h⟩
  · exact List.forall_mem_cons.mpr ⟨.inl (by simp), h⟩
  · exact h

lemma takeDigits_numeral {cs : List Char} (h : ∀ c ∈ (takeDigits cs).2, IsNumeralChar c) :
    ∀ c ∈ cs, IsNumeralChar c := by
  obtain ⟨digits, hcs, hdigits⟩ := takeDigits_append cs
  rw [hcs, List.forall_mem_append]
  exact ⟨fun c hc => .of_isDigit (hdigits c hc), h⟩

lemma readExponent?_numeral {cs : List Char} {e : Int} (h : readExponent? cs = some e) :
    ∀ c ∈ cs, IsNumeralChar c := by
  cases cs with
  | nil => simp
  | cons c rest =>
    rw [readExponent?] at h
    split_ifs at h with hc
    have hletter : IsNumeralChar c := by
      simp only [Bool.or_eq_true, decide_eq_true_eq] at hc
      rcases hc with rfl | rfl <;> exact .inr (.inl (by decide))
    refine List.forall_mem_cons.mpr ⟨hletter, takeSign_numeral (takeDigits_numeral ?_)⟩
    dsimp only at h
    split at h
    case h_1 hdigits => simp [hdigits]
    case h_2 => cases h

lemma readDecimal?_numeral {negative : Bool} {cs : List Char} {x : Binary64}
    (h : readDecimal? negative cs = some x) : ∀ c ∈ cs, IsNumeralChar c := by
  apply takeDigits_numeral
  rw [readDecimal?] at h
  dsimp only at h
  generalize (takeDigits cs).1 = whole at h
  generalize (takeDigits cs).2 = rest at h ⊢
  have hexponent {fraction : List Nat} {rest : List Char}
      (h : (if whole.isEmpty && fraction.isEmpty then none
        else (readExponent? rest).map fun e =>
          ofDecimal negative (ofDigits (whole ++ fraction)) (e - fraction.length)) = some x) :
      ∀ c ∈ rest, IsNumeralChar c := by
    split_ifs at h
    obtain ⟨e, he, -⟩ := Option.map_eq_some_iff.mp h
    exact readExponent?_numeral he
  split at h
  case h_1 rest =>
    -- a point, and digits after it
    exact List.forall_mem_cons.mpr ⟨.inl (by simp), takeDigits_numeral (hexponent h)⟩
  case h_2 => exact hexponent h

lemma word_numeral {cs : List Char} {word : String} (h : cs.map Char.toLower = word.toList)
    (hlower : word.toList.all Char.isLower) : ∀ c ∈ cs, IsNumeralChar c := by
  intro c hc
  have hmem : c.toLower ∈ word.toList := h ▸ List.mem_map_of_mem hc
  exact .inr (.inl (Text.isAlpha_of_isLower_toLower (List.all_eq_true.mp hlower _ hmem)))

/-- A numeral has no other characters. -/
theorem read?_numeral {s : String} {x : Binary64} (h : read? s = some x) :
    ∀ c ∈ s.toList, IsNumeralChar c := by
  rw [read?, readChars?] at h
  apply takeSign_numeral
  dsimp only at h
  split_ifs at h with hinf hnan
  · simp only [Bool.or_eq_true, decide_eq_true_eq] at hinf
    rcases hinf with hinf | hinf
    · exact word_numeral hinf (by decide)
    · exact word_numeral hinf (by decide)
  · exact word_numeral hnan (by decide)
  · exact readDecimal?_numeral h

end ValueSpec.Binary64
