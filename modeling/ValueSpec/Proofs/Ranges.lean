import ValueSpec.Proofs.Arguments
import ValueSpec.Proofs.Escaping
import ValueSpec.Proofs.Leaves
import ValueSpec.Proofs.Numerals

namespace ValueSpec

namespace Leaf

variable {value : String}

/-- A leaf rejects a value with a code and parameters. -/
def Rejects (l : Leaf) (value : String) (code : Code) (params : Params) : Prop :=
  l.outcome value = .ok (.rejected { code, value, params, validator := l.name })

/-- A leaf rejects a value with a code and parameters if its name can be written. If it cannot, the
leaf fails instead. -/
def Declines (l : Leaf) (value : String) (code : Code) (params : Params) : Prop :=
  (l.isNameable → l.Rejects value code params) ∧
    (l.isNameable = false → l.outcome value = .error .tooLongToWrite)

lemma accepts_iff {l : Leaf} : l.accepts value ↔ l.complaint? value = .ok none := by
  rw [accepts, outcome_eq]
  rcases l.complaint? value with f | _ | ⟨code, params⟩
  · simp
  · simp [Outcome.isAccepted]
  · cases h : l.isNameable with
    | true => simp [Integer.writing_of_short h, Except.map, Outcome.isAccepted]
    | false => simp [Integer.writing_of_not_short h, Except.map]

lemma rejects_iff {l : Leaf} {code : Code} {params : Params} :
    l.Rejects value code params ↔
      l.isNameable ∧ l.complaint? value = .ok (some (code, params)) := by
  rw [Rejects, outcome_eq_rejected_iff]
  simp

lemma declines_of_complaint? {l : Leaf} {code : Code} {params : Params}
    (h : l.complaint? value = .ok (some (code, params))) : l.Declines value code params := by
  refine ⟨fun hname => rejects_iff.mpr ⟨hname, h⟩, fun hname => ?_⟩
  rw [outcome_eq, h]
  dsimp only
  rw [Integer.writing_of_not_short hname]
  rfl

lemma require_eq_none_iff {accepted : Bool} {code : Code} {params : Params} :
    require accepted code params = none ↔ accepted := by
  cases accepted <;> simp [require]

lemma require_of_not {accepted : Bool} {code : Code} {params : Params} (h : ¬ accepted) :
    require accepted code params = some (code, params) := by
  rw [require, if_neg h]

/-! ### Lengths -/

/-- With two bounds there are two ways to complain, besides the one for an exact length. -/
lemma lengthComplaint?_both (unit : LengthUnit) (lo hi n : Int) :
    lengthComplaint? unit (some lo) (some hi) n =
      if lo = hi then require (n = lo) unit.notExact [("length", .int lo)]
      else if n < lo then some (unit.tooShort, [("min", .int lo)])
      else require (n ≤ hi) unit.tooLong [("max", .int hi)] := by
  simp only [lengthComplaint?, Option.some.injEq, eq_comm]

lemma lengthComplaint?_eq_none_iff (unit : LengthUnit) {least most : Option Int} {n : Int} :
    lengthComplaint? unit least most n = none ↔
      (∀ lo ∈ least, lo ≤ n) ∧ ∀ hi ∈ most, n ≤ hi := by
  rcases least with _ | lo <;> rcases most with _ | hi
  · simp [lengthComplaint?]
  · simp [lengthComplaint?, require_eq_none_iff]
  · simp [lengthComplaint?]
  · rw [lengthComplaint?_both]
    split_ifs with heq hlt
    · simp [require_eq_none_iff]
      omega
    · simp
      omega
    · simp [require_eq_none_iff]
      omega

/-- A length accepts what both of its bounds accept. -/
lemma accepts_length_iff {unit : LengthUnit} {least most : Option Int} :
    (length unit least most).accepts value ↔
      (∀ lo ∈ least, lo ≤ (unit.size value : Int)) ∧
        ∀ hi ∈ most, (unit.size value : Int) ≤ hi := by
  rw [accepts_iff, ← lengthComplaint?_eq_none_iff unit, complaint?_length, Except.ok.injEq]

/-- A length with two bounds rejects what is not exact, too short or too long. -/
lemma declines_length {unit : LengthUnit} {lo hi : Int}
    (h : ¬ (length unit (some lo) (some hi)).accepts value) :
    if lo = hi then
      (length unit (some lo) (some hi)).Declines value unit.notExact [("length", .int lo)]
    else if (unit.size value : Int) < lo then
      (length unit (some lo) (some hi)).Declines value unit.tooShort [("min", .int lo)]
    else (length unit (some lo) (some hi)).Declines value unit.tooLong [("max", .int hi)] := by
  simp only [accepts_length_iff, Option.mem_some_iff, forall_eq'] at h
  have hcomplaint := complaint?_length value unit (some lo) (some hi)
  rw [lengthComplaint?_both] at hcomplaint
  split_ifs at hcomplaint ⊢ with heq hlt
  · exact declines_of_complaint? (by rw [hcomplaint, require_of_not (by simp; omega)])
  · exact declines_of_complaint? hcomplaint
  · exact declines_of_complaint? (by rw [hcomplaint, require_of_not (by simp; omega)])

/-! ### Numbers -/

lemma rangeComplaint?_eq_none_iff {least most : Option Bound} {x : Binary64} :
    rangeComplaint? least most x = none ↔
      (∀ lo ∈ least, lo.atMost x) ∧ ∀ hi ∈ most, hi.atLeast x := by
  rcases least with _ | lo <;> rcases most with _ | hi <;>
    simp [rangeComplaint?, require_eq_none_iff]

/-- A range accepts the numbers that both of its bounds accept. -/
lemma accepts_range_iff {least most : Option Bound} :
    (range least most).accepts value ↔ ∃ x, Binary64.read? value = some x ∧
      (∀ lo ∈ least, lo.atMost x) ∧ ∀ hi ∈ most, hi.atLeast x := by
  rw [accepts_iff, complaint?, Except.ok.injEq]
  cases Binary64.read? value <;> simp [rangeComplaint?_eq_none_iff]

lemma rejects_range_iff {least most : Option Bound} :
    (range least most).Rejects value .mustBeNumber [] ↔
      (range least most).isNameable ∧ Binary64.read? value = none := by
  rw [rejects_iff, complaint?, Except.ok.injEq]
  cases hread : Binary64.read? value with
  | none => simp
  | some x =>
    -- a number gets another complaint, if it gets one
    rcases least with _ | lo <;> rcases most with _ | hi <;> simp [rangeComplaint?, require]

/-- A range with two bounds rejects what is no number, and a number that is not between them. -/
lemma declines_range {lo hi : Bound} (h : ¬ (range (some lo) (some hi)).accepts value) :
    if Binary64.read? value = none then
      (range (some lo) (some hi)).Declines value .mustBeNumber []
    else (range (some lo) (some hi)).Declines value .valueBetween
      [("min", lo.value), ("max", hi.value)] := by
  split_ifs with hnumber
  · exact declines_of_complaint? (by rw [complaint?, hnumber])
  · obtain ⟨x, hx⟩ := Option.ne_none_iff_exists'.mp hnumber
    refine declines_of_complaint? ?_
    rw [complaint?, hx, Except.ok.injEq]
    refine require_of_not fun hbetween => h ?_
    rw [accepts_range_iff]
    exact ⟨x, hx, by simpa using hbetween⟩

end Leaf

namespace Registry

/-! ### Numerals as arguments -/

lemma isWord_of_numeral {s : String} (hne : s ≠ "")
    (h : ∀ c ∈ s.toList, Binary64.IsNumeralChar c) : IsWord s where
  nonempty := hne
  ordinary c hc := ⟨(h c hc).not_isBlank, (h c hc).not_mem (by decide)⟩

lemma isWord_of_read? {s : String} {x : Binary64} (h : Binary64.read? s = some x) : IsWord s := by
  refine isWord_of_numeral ?_ (Binary64.read?_numeral h)
  rintro rfl
  cases h

lemma isWord_of_denotes {s : String} {n : Int} (h : Integer.Denotes s n) : IsWord s := by
  obtain ⟨sign, digits, hsign, htext, hne, hdigits⟩ := h.isPlain
  have hsigns : ∀ sign ∈ [[], ['+'], ['-']], ∀ c ∈ sign, c ∈ ['+', '-', '.'] := by simp
  apply isWord_of_numeral
  · rintro rfl
    simp [eq_comm, hne] at htext
  · rw [htext, List.forall_mem_append]
    exact ⟨fun c hc => .inl (hsigns sign hsign c hc),
      fun c hc => .of_isDigit (Binary64.isDigit_of_ascii (hdigits c hc))⟩

section

variable {name a b : String} {e : Entry} {depth : Int} (hdepth : depth ≤ 10)

include hdepth

/-- A validator of one value is made of a word. -/
lemma build_word (h : lookup? name = some e) {f : String → String → Build Validator}
    (hform : e.form = .one f) (ha : IsWord a) :
    build (name ++ "(" ++ a ++ ")") depth = f e.name a := by
  have hwords : ∀ w ∈ [a], IsWord w := by simpa using ha
  have hargs := splitArguments_words (List.cons_ne_nil _ _) hwords
  rw [String.intercalate_singleton] at hargs
  exact build_one h hdepth hform hargs

/-- A validator of two values is made of two words. -/
lemma build_words (h : lookup? name = some e) {f : String → String → String → Build Validator}
    (hform : e.form = .two f) (ha : IsWord a) (hb : IsWord b) :
    build (name ++ "(" ++ a ++ "," ++ b ++ ")") depth = f e.name a b := by
  have hwords : ∀ w ∈ [a, b], IsWord w := by simp [ha, hb]
  have hargs := splitArguments_words (List.cons_ne_nil _ _) hwords
  rw [intercalate_pair] at hargs
  have htext : name ++ "(" ++ a ++ "," ++ b ++ ")" = name ++ "(" ++ (a ++ "," ++ b) ++ ")" := by
    simp [String.append_assoc]
  rw [htext]
  exact build_two h hdepth hform hargs

end

section

variable {a b : String} {x y : Binary64} (ha : Binary64.read? a = some x)
  (hb : Binary64.read? b = some y) {depth : Int}

lemma number_of_read? (name : String) (h : Binary64.read? a = some x) :
    number name a = .ok (.real x) := by
  rw [number, h]

include ha

lemma build_min (hdepth : depth ≤ 10) :
    build ("min(" ++ a ++ ")") depth = .ok (.leaf (.range (some (.real x)) none)) := by
  have hlookup : lookup? "min" = some
      { name := "min"
        form := .one fun name a => return .leaf (.range (some (← number name a)) none) } :=
    lookup?_of_isLower (by decide)
  have hword := build_word hdepth hlookup rfl (isWord_of_read? ha)
  rw [number_of_read? _ ha] at hword
  exact hword

lemma build_max (hdepth : depth ≤ 10) :
    build ("max(" ++ a ++ ")") depth = .ok (.leaf (.range none (some (.real x)))) := by
  have hlookup : lookup? "max" = some
      { name := "max"
        form := .one fun name a => return .leaf (.range none (some (← number name a))) } :=
    lookup?_of_isLower (by decide)
  have hword := build_word hdepth hlookup rfl (isWord_of_read? ha)
  rw [number_of_read? _ ha] at hword
  exact hword

include hb

lemma build_range (hdepth : depth ≤ 10) :
    build ("range(" ++ a ++ "," ++ b ++ ")") depth =
      .ok (.leaf (.range (some (.real x)) (some (.real y)))) := by
  have hlookup : lookup? "range" = some
      { name := "range"
        form := .two fun _ a b =>
          return .leaf (.range (some (← number "range min" a)) (some (← number "range max" b))) } :=
    lookup?_of_isLower (by decide)
  have hwords := build_words hdepth hlookup rfl (isWord_of_read? ha) (isWord_of_read? hb)
  rw [number_of_read? _ ha, number_of_read? _ hb] at hwords
  exact hwords

/-- The two halves of a range inside `all` stand one level deeper. -/
lemma build_halves (hdepth : depth ≤ 9) :
    build ("all(min(" ++ a ++ "),max(" ++ b ++ "))") depth =
      .ok (.all [.leaf (.range (some (.real x)) none), .leaf (.range none (some (.real y)))]) := by
  have hmin : IsWord "min" := .of_all (by decide) (by decide)
  have hmax : IsWord "max" := .of_all (by decide) (by decide)
  have hsplit := splitArguments_calls hmin hmax (isWord_of_read? ha) (isWord_of_read? hb)
  have htext : "all(min(" ++ a ++ "),max(" ++ b ++ "))" =
      "all(" ++ ("min" ++ "(" ++ a ++ ")" ++ "," ++ ("max" ++ "(" ++ b ++ ")")) ++ ")" := by
    simp [String.ext_iff]
  have hfirst : build ("min" ++ "(" ++ a ++ ")") (depth + 1) = _ := build_min ha (by omega)
  have hsecond : build ("max" ++ "(" ++ b ++ ")") (depth + 1) = _ := build_max hb (by omega)
  have hne := List.cons_ne_nil ("min" ++ "(" ++ a ++ ")") ["max" ++ "(" ++ b ++ ")"]
  rw [← hsplit] at hne
  rw [htext, build_all hne (by omega), hsplit, List.mapM_cons, List.mapM_cons, hfirst, hsecond]
  rfl

end

end Registry

/-! ### Two-sided ranges -/

namespace Leaf

/-- A range with two bounds accepts what its halves accept, whatever the bounds and the value are.
What is too short is told from what is too long, unless only one length would do, and what is no
number from a number outside of the range; only bounds that are too long to be named let the check
fail instead. So a spec of a range can be written with its halves. -/
theorem accepts_both_iff_halves :
    (∀ (unit : LengthUnit) (lo hi : Int) (value : String),
      ((length unit (some lo) (some hi)).accepts value ↔
        (length unit (some lo) none).accepts value ∧
          (length unit none (some hi)).accepts value) ∧
      (¬ (length unit (some lo) (some hi)).accepts value →
        if lo = hi then
          (length unit (some lo) (some hi)).Declines value unit.notExact [("length", .int lo)]
        else if (unit.size value : Int) < lo then
          (length unit (some lo) (some hi)).Declines value unit.tooShort [("min", .int lo)]
        else (length unit (some lo) (some hi)).Declines value unit.tooLong [("max", .int hi)])) ∧
    (∀ (lo hi : Bound) (value : String),
      ((range (some lo) (some hi)).accepts value ↔
        (range (some lo) none).accepts value ∧ (range none (some hi)).accepts value) ∧
      ((range (some lo) (some hi)).Rejects value .mustBeNumber [] ↔
        (range (some lo) (some hi)).isNameable ∧ Binary64.read? value = none) ∧
      (¬ (range (some lo) (some hi)).accepts value →
        if Binary64.read? value = none then
          (range (some lo) (some hi)).Declines value .mustBeNumber []
        else (range (some lo) (some hi)).Declines value .valueBetween
          [("min", lo.value), ("max", hi.value)])) ∧
    ∀ (a b : String) (x y : Binary64) (depth : Int), Binary64.read? a = some x →
      Binary64.read? b = some y → depth ≤ 9 →
      ∃ v w, Registry.build ("range(" ++ a ++ "," ++ b ++ ")") depth = .ok v ∧
        Registry.build ("all(min(" ++ a ++ "),max(" ++ b ++ "))") depth = .ok w ∧ v.Agree w := by
  have hrange (lo hi : Bound) (value : String) : (range (some lo) (some hi)).accepts value ↔
      (range (some lo) none).accepts value ∧ (range none (some hi)).accepts value := by
    simp only [accepts_range_iff]
    constructor
    · rintro ⟨x, hx, hlo, hhi⟩
      exact ⟨⟨x, hx, hlo, by simp⟩, x, hx, by simp, hhi⟩
    · rintro ⟨⟨x, hx, hlo, -⟩, y, hy, -, hhi⟩
      obtain rfl : x = y := Option.some.inj (hx.symm.trans hy)
      exact ⟨x, hx, hlo, hhi⟩
  refine ⟨fun unit lo hi value => ⟨?_, declines_length⟩,
    fun lo hi value => ⟨hrange lo hi value, rejects_range_iff, declines_range⟩, ?_⟩
  · simp [accepts_length_iff]
  · intro a b x y depth ha hb hdepth
    refine ⟨_, _, Registry.build_range ha hb (by omega), Registry.build_halves ha hb hdepth, ?_⟩
    have hleaf {least most : Option Bound} (hname : (range least most).isNameable) :
        (range least most).calls = [] ∧ (range least most).isNameable ∧
          ∀ value, ∃ o, (range least most).outcome value = .ok o :=
      ⟨rfl, hname, fun _ => exists_outcome hname rfl⟩
    apply Validator.Decides.agree (Validator.decides_eval _)
    · apply (Validator.decides_eval _).congr
      · intro value
        simp [Validator.eval, Validator.evalAll, hrange]
      · simp only [Validator.leaves, Validator.leavesAll, List.append_nil, List.singleton_append,
          List.forall_mem_cons]
        exact ⟨hleaf rfl, hleaf rfl, by simp⟩
    · simp only [Validator.leaves, List.forall_mem_singleton]
      exact hleaf rfl

/-- Bounds in the wrong order, a bound that is not a number, the halves of such a range, and a bound
that is too long to be named. -/
theorem accepts_both_iff_halves_nan :
    ¬ (length .characters (some 3) (some 1)).accepts "ab" ∧
    (length .characters (some 3) (some 1)).Rejects "ab" .minLength [("min", .int 3)] ∧
    ¬ (range (some (.real .nan)) (some (.int 5))).accepts "1" ∧
    (range (some (.real .nan)) (some (.int 5))).Rejects "1" .valueBetween
      [("min", .real .nan), ("max", .int 5)] ∧
    (∃ huge, (length .bytes (some 3) (some huge)).outcome "ab" = .error .tooLongToWrite) ∧
    ∃ v w, Registry.build "range(nan,+Infinity)" 9 = .ok v ∧
      Registry.build "all(min(nan),max(+Infinity))" 9 = .ok w ∧ v.Agree w := by
  obtain ⟨hlength, hrange, hbuild⟩ := accepts_both_iff_halves
  have hshort : ¬ (length .characters (some 3) (some 1)).accepts "ab" := by decide
  have hnan : ¬ (range (some (.real .nan)) (some (.int 5))).accepts "1" := by decide +kernel
  have hrejects := (hlength .characters 3 1 "ab").2 hshort
  rw [if_neg (by decide), if_pos (by decide)] at hrejects
  have hbetween := (hrange (.real .nan) (.int 5) "1").2.2 hnan
  rw [if_neg (by decide +kernel)] at hbetween
  have hfails {huge : Int} (hhuge : Integer.isShort huge = false) :
      (length .bytes (some 3) (some huge)).outcome "ab" = .error .tooLongToWrite := by
    have hbytes : ((LengthUnit.size .bytes "ab" : Nat) : Int) < 3 := by decide
    have hnot : ¬ (length .bytes (some 3) (some huge)).accepts "ab" := by
      rw [accepts_length_iff]
      exact fun h => Int.not_le.mpr hbytes (h.1 3 rfl)
    have hne : (3 : Int) ≠ huge := by
      rintro rfl
      cases hhuge
    have hdeclines := (hlength .bytes 3 huge "ab").2 hnot
    rw [if_neg hne, if_pos hbytes] at hdeclines
    exact hdeclines.2 (by simp [isNameable, integers, hhuge])
  exact ⟨hshort, hrejects.1 (by decide), hnan, hbetween.1 (by decide),
    ⟨_, hfails Integer.isShort_pow_digitLimit⟩, hbuild "nan" "+Infinity" _ _ 9 rfl rfl le_rfl⟩

end Leaf

/-! ### Ranges of integers -/

namespace Leaf

variable {value : String} {lo hi n : Int}

lemma outcome_intRange_of_denotes (hname : (intRange lo hi).isNameable)
    (h : Integer.Denotes value n) :
    (intRange lo hi).outcome value = .ok (if lo ≤ n ∧ n ≤ hi then .accepted
      else .rejected
        { code := .valueBetween, value, params := [("min", .int lo), ("max", .int hi)]
          validator := (intRange lo hi).name }) := by
  have hcomplaint : (intRange lo hi).complaint? value =
      .ok (require (lo ≤ n && n ≤ hi) .valueBetween [("min", .int lo), ("max", .int hi)]) := by
    rw [complaint?, Integer.read_eq_some_iff.mpr h]
    rfl
  rw [outcome_of_isNameable hname, hcomplaint]
  by_cases hbetween : lo ≤ n ∧ n ≤ hi
  · simp [hbetween, require]
  · have hnot : (lo ≤ n && n ≤ hi) = false := by simpa using hbetween
    simp [hbetween, hnot, require]

lemma outcome_intRange_of_not_isPlain (hname : (intRange lo hi).isNameable)
    (h : ¬ Integer.IsPlain value) :
    (intRange lo hi).outcome value =
      .ok (.rejected { code := .mustBeInteger, value, validator := (intRange lo hi).name }) := by
  have hcomplaint : (intRange lo hi).complaint? value = .ok (some (.mustBeInteger, [])) := by
    rw [complaint?, Integer.read_eq_none_iff.mpr h]
    rfl
  rw [outcome_of_isNameable hname, hcomplaint]

end Leaf

namespace Registry

lemma build_intRange {a b : String} {lo hi : Int} (ha : Integer.Denotes a lo)
    (hb : Integer.Denotes b hi) {depth : Int} (hdepth : depth ≤ 10) :
    build ("intrange(" ++ a ++ "," ++ b ++ ")") depth = .ok (.leaf (.intRange lo hi)) := by
  have hwords := build_words hdepth lookup?_intrange rfl (isWord_of_denotes ha)
    (isWord_of_denotes hb)
  rw [integer_of_denotes ha, integer_of_denotes hb] at hwords
  exact hwords

/-- A range of integers is built of any spelling of its bounds. It accepts all spellings of the
integers between them, rejects those of other integers with the bounds themselves, and rejects
whatever is no plain numeral as no integer. Ports are such a range. -/
theorem build_intRange_exact :
    (∀ (a b : String) (lo hi depth : Int), Integer.Denotes a lo → Integer.Denotes b hi →
      depth ≤ 10 →
      ∃ v, build ("intrange(" ++ a ++ "," ++ b ++ ")") depth = .ok v ∧
        (∀ value n, Integer.Denotes value n →
          v.run value = ⟨[], .ok (if lo ≤ n ∧ n ≤ hi then .accepted
            else .rejected
              { code := .valueBetween, value, params := [("min", .int lo), ("max", .int hi)]
                validator := v.name })⟩) ∧
        ∀ value, ¬ Integer.IsPlain value →
          v.run value =
            ⟨[], .ok (.rejected { code := .mustBeInteger, value, validator := v.name })⟩) ∧
    ∀ depth : Int, depth ≤ 10 →
      ∃ v w, build "port" depth = .ok v ∧ build "intrange(1,65535)" depth = .ok w ∧
        ∀ value, v.run value = w.run value := by
  refine ⟨fun a b lo hi depth ha hb hdepth => ?_, fun depth hdepth => ?_⟩
  · have hname : (Leaf.intRange lo hi).isNameable := by
      simp [Leaf.isNameable, Leaf.integers, ha.isShort, hb.isShort]
    refine ⟨_, build_intRange ha hb hdepth, fun value n hn => ?_, fun value hplain => ?_⟩
    · rw [Validator.run, Leaf.outcome_intRange_of_denotes hname hn]
      rfl
    · rw [Validator.run, Leaf.outcome_intRange_of_not_isPlain hname hplain]
      rfl
  · have hport : lookup? "port" = some { name := "port", form := .fixed (.leaf port) } :=
      lookup?_of_isLower (by decide)
    have hlo : Integer.Denotes "1" 1 := Integer.read_eq_some_iff.mp rfl
    have hhi : Integer.Denotes "65535" 65535 := Integer.read_eq_some_iff.mp rfl
    exact ⟨_, _, build_name hport hdepth, build_intRange hlo hhi hdepth, fun _ => rfl⟩

/-- Zeros in front, both signs of zero, an integer of more than 64 bits, and a line end. -/
theorem build_intRange_exact_zeros :
    Integer.Denotes "-007" (-7) ∧ Integer.Denotes "+0" 0 ∧ Integer.Denotes "-0" 0 ∧
    Integer.Denotes "0100000000000000000000" 100000000000000000000 ∧ ¬ Integer.IsPlain "0\n" ∧
    ∃ v, build "intrange(-007,+0)" 10 = .ok v ∧ v.run "-0" = ⟨[], .ok .accepted⟩ ∧
      v.run "0100000000000000000000" =
        ⟨[], .ok (.rejected
          { code := .valueBetween, value := "0100000000000000000000"
            params := [("min", .int (-7)), ("max", .int 0)], validator := v.name })⟩ ∧
      v.run "0\n" =
        ⟨[], .ok (.rejected { code := .mustBeInteger, value := "0\n", validator := v.name })⟩ := by
  have hlo : Integer.Denotes "-007" (-7) := Integer.read_eq_some_iff.mp rfl
  have hhi : Integer.Denotes "+0" 0 := Integer.read_eq_some_iff.mp rfl
  have hzero : Integer.Denotes "-0" 0 := Integer.read_eq_some_iff.mp rfl
  have hlarge : Integer.Denotes "0100000000000000000000" 100000000000000000000 :=
    Integer.read_eq_some_iff.mp rfl
  have hline : ¬ Integer.IsPlain "0\n" := Integer.read_eq_none_iff.mp rfl
  obtain ⟨v, hv, hvalues, hothers⟩ := build_intRange_exact.1 "-007" "+0" (-7) 0 10 hlo hhi le_rfl
  refine ⟨hlo, hhi, hzero, hlarge, hline, v, hv, ?_, ?_, hothers "0\n" hline⟩
  · exact (hvalues "-0" 0 hzero).trans rfl
  · exact (hvalues "0100000000000000000000" 100000000000000000000 hlarge).trans rfl

end Registry

end ValueSpec
