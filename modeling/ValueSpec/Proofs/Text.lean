import Mathlib.Data.List.DropRight
import Mathlib.Tactic.Lemma
import ValueSpec.Text.Blank
import ValueSpec.Text.Case

namespace ValueSpec.Text

/-! ### Stripping -/

lemma stripRight_eq_rdropWhile (cs : List Char) : stripRight cs = cs.rdropWhile isBlank := rfl

lemma stripLeft_append {l : List Char} (hl : ∀ c ∈ l, isBlank c) (cs : List Char) :
    stripLeft (l ++ cs) = stripLeft cs :=
  List.dropWhile_append_of_pos hl

lemma stripRight_append {r : List Char} (hr : ∀ c ∈ r, isBlank c) (cs : List Char) :
    stripRight (cs ++ r) = stripRight cs := by
  induction r using List.reverseRecOn with
  | nil => simp
  | append_singleton r c ih =>
    rw [stripRight_eq_rdropWhile, ← List.append_assoc, List.rdropWhile_concat_pos]
    · exact ih fun d hd => hr d (by simp [hd])
    · exact hr c (by simp)

/-- Blanks around a text are not a part of it. -/
lemma stripChars_pad {l r : List Char} (hl : ∀ c ∈ l, isBlank c) (hr : ∀ c ∈ r, isBlank c)
    (cs : List Char) : stripChars (l ++ cs ++ r) = stripChars cs := by
  rw [stripChars, List.append_assoc, stripLeft_append hl, stripLeft, List.dropWhile_append]
  split_ifs with hnil
  · -- nothing is left of the text itself, so that blanks only remain
    have hcs : stripLeft cs = [] := List.isEmpty_iff.mp hnil
    have hdrop : r.dropWhile isBlank = [] := List.dropWhile_eq_nil_iff.mpr hr
    rw [hdrop, stripChars, hcs]
  · exact stripRight_append hr _

/-- A text is stripped if neither its first character nor its last one is blank. -/
lemma stripChars_eq_self {cs : List Char} (hhead : ∀ c ∈ cs.head?, isBlank c = false)
    (hlast : ∀ c ∈ cs.getLast?, isBlank c = false) : stripChars cs = cs := by
  have hleft : stripLeft cs = cs := by
    cases cs with
    | nil => rfl
    | cons c rest => simp [stripLeft, hhead c (by simp)]
  rw [stripChars, hleft, stripRight_eq_rdropWhile, List.rdropWhile_eq_self_iff]
  intro hne
  simp [hlast _ (List.getLast_mem_getLast? hne)]

lemma stripChars_eq_nil_iff {cs : List Char} : stripChars cs = [] ↔ ∀ c ∈ cs, isBlank c := by
  rw [stripChars, stripRight_eq_rdropWhile, List.rdropWhile_eq_nil_iff]
  constructor
  · intro h
    by_contra hblank
    have hne : cs.dropWhile isBlank ≠ [] := by
      simpa [List.dropWhile_eq_nil_iff] using hblank
    have hhead : isBlank ((cs.dropWhile isBlank).head hne) = true := h _ (List.head_mem hne)
    rw [List.head_dropWhile_not isBlank hne] at hhead
    exact Bool.false_ne_true hhead
  · intro h
    simp [stripLeft, List.dropWhile_eq_nil_iff.mpr h]

lemma head?_stripChars_not_blank {cs : List Char} :
    ∀ c ∈ (stripChars cs).head?, isBlank c = false := by
  intro c hc
  have hstart : stripChars cs <+: stripLeft cs := List.rdropWhile_prefix isBlank _
  obtain ⟨rest, hrest⟩ := hstart
  have hhead : c ∈ (stripLeft cs).head? := by
    rw [← hrest, List.head?_append, Option.mem_def.mp hc]
    rfl
  have hne : stripLeft cs ≠ [] := by
    intro hnil
    simp [hnil] at hhead
  obtain rfl : (stripLeft cs).head hne = c := by
    simpa [List.head?_eq_some_head hne] using hhead
  exact List.head_dropWhile_not isBlank hne

lemma getLast?_stripChars_not_blank {cs : List Char} :
    ∀ c ∈ (stripChars cs).getLast?, isBlank c = false := by
  intro c hc
  obtain ⟨hne, rfl⟩ := List.mem_getLast?_eq_getLast hc
  exact Bool.eq_false_iff.mpr (List.rdropWhile_last_not isBlank (stripLeft cs) hne)

/-- Stripping twice is stripping once. -/
@[simp] lemma stripChars_stripChars (cs : List Char) : stripChars (stripChars cs) = stripChars cs :=
  stripChars_eq_self head?_stripChars_not_blank getLast?_stripChars_not_blank

/-- A text is what is left of it when it is stripped, with blanks around. -/
lemma exists_pad (cs : List Char) :
    ∃ l r, cs = l ++ stripChars cs ++ r ∧ (∀ c ∈ l, isBlank c) ∧ ∀ c ∈ r, isBlank c := by
  refine ⟨cs.takeWhile isBlank, (stripLeft cs).rtakeWhile isBlank, ?_, ?_, ?_⟩
  · rw [List.append_assoc, stripChars, stripRight_eq_rdropWhile,
      List.rdropWhile_append_rtakeWhile, stripLeft, List.takeWhile_append_dropWhile]
  · exact fun c hc => List.mem_takeWhile_imp hc
  · exact fun c hc => List.mem_rtakeWhile_imp hc

/-- Stripping takes blanks only. -/
lemma mem_stripChars {cs : List Char} {c : Char} (hc : isBlank c = false) (h : c ∈ cs) :
    c ∈ stripChars cs := by
  obtain ⟨l, r, hcs, hl, hr⟩ := exists_pad cs
  rw [hcs, List.mem_append, List.mem_append] at h
  rcases h with (hleft | hmem) | hright
  · simp [hl c hleft] at hc
  · exact hmem
  · simp [hr c hright] at hc

lemma isBlankText_iff {s : String} : isBlankText s ↔ ∀ c ∈ s.toList, isBlank c := by
  simp [isBlankText]

lemma dropWhile_append_cons {c : Char} (hc : isBlank c = false) (l r : List Char) :
    (l ++ c :: r).dropWhile isBlank = l.dropWhile isBlank ++ c :: r := by
  rw [List.dropWhile_append]
  split_ifs with hnil
  · rw [List.isEmpty_iff.mp hnil, List.dropWhile_cons_of_neg (by simp [hc]), List.nil_append]
  · rfl

/-- A character that is not blank parts what is stripped at its two sides. -/
lemma stripChars_append_cons {c : Char} (hc : isBlank c = false) (l r : List Char) :
    stripChars (l ++ c :: r) = stripLeft l ++ c :: stripRight r := by
  rw [stripChars, stripLeft, dropWhile_append_cons hc, stripRight, List.reverse_append,
    List.reverse_cons, List.append_assoc, List.singleton_append, dropWhile_append_cons hc]
  simp [stripLeft, stripRight]

lemma stripChars_stripLeft (cs : List Char) : stripChars (stripLeft cs) = stripChars cs := by
  rw [stripChars, stripLeft, stripLeft, List.dropWhile_idempotent, stripChars, stripLeft]

lemma stripChars_stripRight (cs : List Char) : stripChars (stripRight cs) = stripChars cs := by
  have hblank : ∀ c ∈ cs.rtakeWhile isBlank, isBlank c := fun c hc => List.mem_rtakeWhile_imp hc
  have hpad := stripChars_pad (l := []) (by simp) hblank (stripRight cs)
  rw [List.nil_append, stripRight_eq_rdropWhile, List.rdropWhile_append_rtakeWhile] at hpad
  exact hpad.symm

/-! ### Folding -/

/-- The one run of the lower-case map that reaches into ASCII holds the capital letters. -/
lemma lowerPoint_ascii {n : Nat} (hn : n < 128) :
    lowerPoint n = if 0x41 ≤ n ∧ n ≤ 0x5A then n + 32 else n := by
  have hbeyond : ∀ r ∈ lowerRuns.tail, 128 ≤ r.first := by decide +kernel
  have hnone : lowerRuns.tail.find? (·.covers n) = none := by
    rw [List.find?_eq_none]
    intro r hr
    have := hbeyond r hr
    simp [CaseRun.covers]
    omega
  have hruns : lowerRuns = ⟨0x41, 0x5A, 1, 32⟩ :: lowerRuns.tail := rfl
  rw [lowerPoint, mapRuns, hruns, List.find?_cons, hnone]
  split_ifs with hcapital
  · have : CaseRun.covers ⟨0x41, 0x5A, 1, 32⟩ n = true := by
      simp [CaseRun.covers, hcapital]
      omega
    simp only [this]
    omega
  · have : CaseRun.covers ⟨0x41, 0x5A, 1, 32⟩ n = false := by
      simp [CaseRun.covers]
      omega
    simp [this]

/-- On ASCII, folding is lowering. -/
lemma foldChar_eq_toLower {c : Char} (hc : c.toNat < 128) : foldChar c = [c.toLower] := by
  have hsequences : ∀ p ∈ foldSequences, 128 ≤ p.1 := by decide +kernel
  have hruns : ∀ r ∈ foldRuns, 128 ≤ r.first := by decide +kernel
  have hlookup : foldSequences.lookup c.toNat = none := by
    rw [List.lookup_eq_none_iff]
    intro p hp
    have := hsequences p hp
    simp
    omega
  have hfind : foldRuns.find? (·.covers c.toNat) = none := by
    rw [List.find?_eq_none]
    intro r hr
    have := hruns r hr
    simp [CaseRun.covers]
    omega
  have hlower : ∀ n < 128, Char.ofNat (if 0x41 ≤ n ∧ n ≤ 0x5A then n + 32 else n) =
      (Char.ofNat n).toLower := by decide
  rw [foldChar, hlookup, hfind]
  simpa [lowerPoint_ascii hc] using hlower c.toNat hc

lemma foldChars_eq_map_toLower {cs : List Char} (h : ∀ c ∈ cs, c.toNat < 128) :
    foldChars cs = cs.map Char.toLower := by
  induction cs with
  | nil => rfl
  | cons c rest ih =>
    have hc : foldChar c = [c.toLower] := foldChar_eq_toLower (h c (by simp))
    have hrest : foldChars rest = rest.map Char.toLower := ih fun d hd => h d (by simp [hd])
    simp [foldChars, hc] at hrest ⊢
    exact hrest

/-- Folding keeps an ASCII character that is no capital letter. -/
lemma mem_foldChars {cs : List Char} {c : Char} (hascii : c.toNat < 128) (hlower : c.toLower = c)
    (h : c ∈ cs) : c ∈ foldChars cs := by
  rw [foldChars, List.mem_flatMap]
  refine ⟨c, h, ?_⟩
  rw [foldChar_eq_toLower hascii, hlower]
  exact List.mem_singleton_self c

/-! ### Letters of ASCII -/

lemma isAlpha_of_isLower_toLower {c : Char} (h : c.toLower.isLower) : c.isAlpha := by
  have hcases : c.isAlpha = (c.isUpper || c.isLower) := rfl
  delta Char.toLower at h
  split_ifs at h with hupper
  · have : c.isUpper = true := by
      show decide _ = true
      exact decide_eq_true hupper
    simp [hcases, this]
  · simp [hcases, h]

lemma ordinary_of_isAlpha {c : Char} (h : c.isAlpha) :
    isBlank c = false ∧ c.toNat < 128 := by
  have hrange : (65 ≤ c.toNat ∧ c.toNat ≤ 90) ∨ (97 ≤ c.toNat ∧ c.toNat ≤ 122) := by
    rcases (Bool.or_eq_true _ _).mp h with hupper | hlower
    · have hval : 'A'.val ≤ c.val ∧ c.val ≤ 'Z'.val := of_decide_eq_true hupper
      exact .inl ⟨UInt32.le_iff_toNat_le.mp hval.1, UInt32.le_iff_toNat_le.mp hval.2⟩
    · have hval := (Bool.and_eq_true _ _).mp hlower
      exact .inr ⟨UInt32.le_iff_toNat_le.mp (of_decide_eq_true hval.1),
        UInt32.le_iff_toNat_le.mp (of_decide_eq_true hval.2)⟩
  constructor
  · simp [isBlank]
    omega
  · omega

end ValueSpec.Text
