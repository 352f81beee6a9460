import ValueSpec.Proofs.Faults
import ValueSpec.Proofs.Leaves

/-!
# Verdicts

A validator that is built of a spec has a verdict on every value, with two exceptions. The leaves
that read integers cannot read a numeral that is too long, and lengths in bytes cannot be told of a
value that has surrogates. A check that comes to such a leaf fails. A check that does not has a
verdict, and no check calls a custom function.
-/

namespace ValueSpec

open Build Registry

/-! ### One leaf -/

namespace Leaf

/-- Is a leaf made of a custom function? -/
def isCustom : Leaf → Bool
  | custom _ _ => true
  | _ => false

/-- Does a leaf read values as integers? -/
def readsInteger : Leaf → Bool
  | integer => true
  | intRange _ _ => true
  | _ => false

/-- Does a leaf count bytes? -/
def countsBytes : Leaf → Bool
  | length .bytes _ _ => true
  | _ => false

/-- A leaf that calls nothing and has a name. -/
structure IsOrdinary (l : Leaf) : Prop where
  notCustom : l.isCustom = false
  nameable : l.isNameable

variable {l : Leaf} {value : String}

lemma IsOrdinary.calls_eq (h : l.IsOrdinary) : l.calls = [] := by
  cases l with
  | custom label check => cases h.notCustom
  | _ => rfl

lemma outcome_eq_error_iff (hname : l.isNameable) {f : Fault} :
    l.outcome value = .error f ↔ l.complaint? value = .error f := by
  rw [outcome_of_isNameable hname]
  rcases l.complaint? value with g | _ | ⟨code, params⟩ <;> simp

/-- A leaf has no verdict on a text if it reads integers and the text is too long to be read. -/
lemma IsOrdinary.fails_iff (h : l.IsOrdinary) {f : Fault} :
    l.outcome value = .error f ↔
      l.readsInteger ∧ ∃ count, Overlong value count ∧ f = .tooManyDigits count := by
  rw [outcome_eq_error_iff h.nameable, ← Integer.read_eq_error_iff]
  cases l with
  | custom label check => cases h.notCustom
  | length unit lo hi => simp [complaint?_length, readsInteger]
  | integer =>
    rw [complaint?]
    rcases Integer.read value with g | n <;>
      simp [bind, Except.bind, pure, Except.pure, readsInteger]
  | intRange lo hi =>
    rw [complaint?]
    rcases Integer.read value with g | _ | n <;>
      simp [bind, Except.bind, pure, Except.pure, readsInteger]
  | _ => simp [complaint?, readsInteger]

lemma IsOrdinary.verdict_eq (h : l.IsOrdinary) :
    Validator.verdict value l = ⟨[], (l.outcome value).map Outcome.isAccepted⟩ := by
  rw [Validator.verdict, Validator.run, h.calls_eq]
  rcases l.outcome value with f | o
  · rfl
  · exact Traced.map_ok _ _ _

lemma IsOrdinary.verdict_of_overlong (h : l.IsOrdinary) {count : Nat} (hreads : l.readsInteger)
    (hcount : Overlong value count) :
    Validator.verdict value l = ⟨[], .error (.tooManyDigits count)⟩ := by
  rw [h.verdict_eq, h.fails_iff.mpr ⟨hreads, count, hcount, rfl⟩]
  rfl

lemma IsOrdinary.exists_verdict (h : l.IsOrdinary)
    (hok : l.readsInteger → ∀ count, ¬ Overlong value count) :
    ∃ b, Validator.verdict value l = ⟨[], .ok b⟩ := by
  have houtcome : ∃ o, l.outcome value = .ok o := by
    rw [exists_ok_iff]
    intro f hf
    obtain ⟨hreads, count, hcount, -⟩ := h.fails_iff.mp hf
    exact hok hreads count hcount
  obtain ⟨o, ho⟩ := houtcome
  exact ⟨o.isAccepted, by rw [h.verdict_eq, ho]; rfl⟩

/-- What a leaf says of a value with surrogates. Such a value has a length in characters but none
in bytes, and `answer` is what all other leaves say of it. -/
def lookBroken (answer : Leaf → Bool) (ps : List CodePoint) : Leaf → Run Bool
  | length unit lo hi => do
    let n ← .of (unit.measure ps)
    if (lengthComplaint? unit lo hi n).isNone then return true
    let _ ← .of (Integer.writing (length unit lo hi).integers (length unit lo hi).name)
    return false
  | l => return answer l

/-- What a leaf says of any value. -/
def look (answer : Leaf → Bool) (ps : List CodePoint) (l : Leaf) : Run Bool :=
  match CodePoint.text? ps with
  | some s => Validator.verdict s l
  | none => lookBroken answer ps l

lemma look_ofString (answer : Leaf → Bool) (s : String) :
    look answer (CodePoint.ofString s) = Validator.verdict s := by
  funext l
  rw [look, CodePoint.text?_ofString]

variable {answer : Leaf → Bool} {ps : List CodePoint}

lemma lookBroken_of_countsBytes {f : Fault} (hf : CodePoint.utf8Length ps = .error f)
    (h : l.countsBytes) : lookBroken answer ps l = ⟨[], .error f⟩ := by
  match l with
  | length .bytes lo hi =>
    rw [lookBroken, LengthUnit.measure, hf]
    rfl

lemma exists_lookBroken (hname : l.isNameable) (h : l.countsBytes = false) :
    ∃ b, lookBroken answer ps l = ⟨[], .ok b⟩ := by
  cases l with
  | length unit lo hi =>
    cases unit with
    | bytes => cases h
    | characters =>
      rw [lookBroken, LengthUnit.measure, Integer.writing_of_short hname]
      rcases h : lengthComplaint? .characters lo hi ps.length with _ | complaint
      · exact ⟨true, by simp [Traced.of, h]⟩
      · exact ⟨false, by simp [Traced.of, h]⟩
  | _ => exact ⟨_, rfl⟩

end Leaf

/-! ### Built validators -/

namespace Registry

lemma isShort_of_integer (name arg : String) :
    Yields (fun n => Integer.isShort n) (integer name arg) := fun _ h =>
  (Integer.read_eq_some_iff.mp (integer_ok_iff.mp h)).isShort

lemma isShort_of_length (name arg : String) :
    Yields (fun n => Integer.isShort n) (length name arg) := by
  refine (isShort_of_integer name arg).bind fun n hn => ?_
  split
  · exact .refuse _
  · exact .ok hn

lemma isShort_of_number (name arg : String) :
    Yields (fun b => b.integers = []) (number name arg) := by
  unfold number
  split
  · exact .ok rfl
  · exact .refuse _

lemma pattern_ordinary (arg : String) : Yields (AllLeaves Leaf.IsOrdinary) (pattern arg) :=
  .bind_right fun _ => .bind_right fun _ => .ok (allLeaves_leaf.mpr ⟨rfl, rfl⟩)

lemma lengthForm_ordinary (unit : LengthUnit) {bounds : Int → Option Int × Option Int}
    (hbounds : ∀ n, ∀ m ∈ (bounds n).1.toList ++ (bounds n).2.toList, m = n) :
    FormLeaves Leaf.IsOrdinary (lengthForm unit bounds) := by
  intro name arg
  refine (isShort_of_length name arg).bind fun n hn => .ok (allLeaves_leaf.mpr ⟨rfl, ?_⟩)
  rw [Leaf.isNameable, Leaf.integers, List.all_eq_true]
  intro m hm
  rw [hbounds n m hm, hn]

/-- Every entry makes leaves that call nothing and have a name. -/
lemma form_ordinary {e : Entry} (he : e ∈ entries) : FormLeaves Leaf.IsOrdinary e.form := by
  have hleaf {l : Leaf} (h : l.isCustom = false) (hname : l.isNameable) :
      AllLeaves Leaf.IsOrdinary (.leaf l) := allLeaves_leaf.mpr ⟨h, hname⟩
  have hforms : ∀ e ∈ entries, FormLeaves Leaf.IsOrdinary e.form := by
    simp only [entries, List.forall_mem_cons]
    refine ⟨hleaf rfl rfl, fun _ => hleaf rfl rfl, lengthForm_ordinary _ (by simp),
      lengthForm_ordinary _ (by simp), lengthForm_ordinary _ (by simp),
      lengthForm_ordinary _ (by simp), lengthForm_ordinary _ (by simp),
      lengthForm_ordinary _ (by simp), ?range, ?intrange, ?min, ?max,
      pattern_ordinary, pattern_ordinary, ?mustnotmatch, fun _ => hleaf rfl rfl,
      fun _ => allLeaves_not.mpr (hleaf rfl rfl), hleaf rfl rfl, hleaf rfl rfl, hleaf rfl rfl,
      hleaf rfl rfl, hleaf rfl rfl, hleaf rfl rfl, fun _ => hleaf rfl rfl, hleaf rfl rfl,
      hleaf rfl rfl, hleaf rfl (by decide), fun _ => allLeaves_any.mpr,
      fun _ => allLeaves_all.mpr, fun _ => allLeaves_not.mpr, by simp⟩
    case range =>
      intro name a b
      refine (isShort_of_number _ a).bind fun lo hlo => ?_
      refine (isShort_of_number _ b).bind fun hi hhi => ?_
      exact .ok (hleaf rfl (by simp [Leaf.isNameable, Leaf.integers, hlo, hhi]))
    case intrange =>
      intro name a b
      refine (isShort_of_integer _ a).bind fun lo hlo => ?_
      refine (isShort_of_integer _ b).bind fun hi hhi => ?_
      exact .ok (hleaf rfl (by simp [Leaf.isNameable, Leaf.integers, hlo, hhi]))
    case min =>
      intro name a
      refine (isShort_of_number _ a).bind fun lo hlo => ?_
      exact .ok (hleaf rfl (by simp [Leaf.isNameable, Leaf.integers, hlo]))
    case max =>
      intro name a
      refine (isShort_of_number _ a).bind fun hi hhi => ?_
      exact .ok (hleaf rfl (by simp [Leaf.isNameable, Leaf.integers, hhi]))
    case mustnotmatch =>
      intro arg
      exact (pattern_ordinary arg).bind fun v hv => .ok (allLeaves_not.mpr hv)
  exact hforms e he

/-- No spec names a custom function or has a leaf whose name cannot be written. -/
lemma ordinary_of_build {text : String} {depth : Int} {v : Validator}
    (h : build text depth = .ok v) : ∀ l ∈ v.leaves, l.IsOrdinary :=
  buildAt_leaves (fun _ he => form_ordinary he) _ _ v h

/-- No spec names a custom function. -/
lemma not_custom_of_build {text : String} {depth : Int} {v : Validator}
    (h : build text depth = .ok v) : ∀ l ∈ v.leaves, l.isCustom = false := fun l hl =>
  (ordinary_of_build h l hl).notCustom

lemma buildAt_integer (n : Nat) : buildAt (n + 1) "integer" = .ok (.leaf .integer) := by
  have hlookup : lookup? "integer" =
      some { name := "integer", aliases := ["int"], form := .fixed (.leaf .integer) } :=
    lookup?_of_isLower (by decide)
  exact buildAt_name hlookup n

end Registry

/-! ### Checks by built validators -/

namespace Validator

/-- A check comes to a leaf that reads integers, and the value is too long to be read. -/
def Overruns (v : Validator) (value : String) (count : Nat) : Prop :=
  Overlong value count ∧ ∃ l ∈ v.visited (Leaf.accepts value), l.readsInteger

/-- The verdict on any value; `answer` is what leaves that measure no length say of one with
surrogates. -/
def verdictOn (answer : Leaf → Bool) (ps : List CodePoint) (v : Validator) : Run Bool :=
  v.judge (Leaf.look answer ps)

/-- A check of a value with surrogates comes to a leaf that counts bytes. -/
def ComesToBytes (answer : Leaf → Bool) (ps : List CodePoint) (v : Validator) : Prop :=
  ∃ l ∈ v.visited (affirms (Leaf.look answer ps)), l.countsBytes

variable {v : Validator} (hv : ∀ l ∈ v.leaves, l.IsOrdinary)

lemma verdictOn_ofString (answer : Leaf → Bool) (value : String) (v : Validator) :
    v.verdictOn answer (CodePoint.ofString value) = Outcome.isAccepted <$> v.run value := by
  rw [verdictOn, Leaf.look_ofString, isAccepted_run]

include hv

lemma isNameable_of_ordinary : v.isNameable :=
  isNameable_iff.mpr fun l hl => (hv l hl).nameable

/-- The verdict on a text, by the leaves that a check comes to. -/
lemma run_iff_overruns (value : String) :
    ((∃ o, v.run value = ⟨[], .ok o⟩) ↔ ∀ count, ¬ v.Overruns value count) ∧
    ∀ f, (v.run value).result = .error f ↔
      ∃ count, v.Overruns value count ∧ f = .tooManyDigits count := by
  have hordinary (l : Leaf) (hl : l ∈ v.visited (affirms (verdict value))) : l.IsOrdinary :=
    hv l (mem_leaves_of_mem_visited hl)
  rw [← Traced.exists_map_eq_ok_iff (f := Outcome.isAccepted)]
  simp only [← Traced.result_map_eq_error_iff (f := Outcome.isAccepted)]
  rw [isAccepted_run]
  -- every leaf has a verdict on a value that can be read, and otherwise those that read it fail
  by_cases hlong : ∃ count, Overlong value count
  · obtain ⟨count, hcount⟩ := hlong
    have hiff := judge_iff (isNameable_of_ordinary hv)
      (fun l hl hreads => (hordinary l hl).exists_verdict fun h => by simp [hreads] at h)
      (fun l hl hreads => (hordinary l hl).verdict_of_overlong hreads hcount)
    rw [affirms_verdict] at hiff
    constructor
    · rw [hiff.1]
      constructor
      · rintro hnone other ⟨-, l, hl, hreads⟩
        rw [hnone l hl] at hreads
        cases hreads
      · intro hnone l hl
        rw [Bool.eq_false_iff]
        exact fun hreads => hnone count ⟨hcount, l, hl, hreads⟩
    · intro f
      rw [hiff.2]
      constructor
      · rintro ⟨hreads, rfl⟩
        exact ⟨count, ⟨hcount, hreads⟩, rfl⟩
      · rintro ⟨other, ⟨hother, hreads⟩, rfl⟩
        exact ⟨hreads, by rw [Integer.overlong_unique hcount hother]⟩
  · have hshort (count : Nat) : ¬ Overlong value count := fun h => hlong ⟨count, h⟩
    have hjudge := judge_of_ok (isNameable_of_ordinary hv) fun l hl =>
      (hordinary l hl).exists_verdict fun _ => hshort
    rw [hjudge]
    refine ⟨iff_of_true ⟨_, rfl⟩ fun count h => hshort count h.1, fun f => ?_⟩
    exact iff_of_false nofun fun ⟨count, h, _⟩ => hshort count h.1

/-- The verdict on a value with surrogates, by the leaves that a check comes to. -/
lemma verdictOn_iff (answer : Leaf → Bool) {ps : List CodePoint}
    (hps : ps.any CodePoint.isSurrogate) :
    ((∃ b, v.verdictOn answer ps = ⟨[], .ok b⟩) ↔ ¬ v.ComesToBytes answer ps) ∧
    ∀ f, (v.verdictOn answer ps).result = .error f ↔
      v.ComesToBytes answer ps ∧ CodePoint.utf8Length ps = .error f := by
  obtain ⟨f, hf⟩ := CodePoint.exists_utf8Length_eq_error hps
  have hlook : Leaf.look answer ps = Leaf.lookBroken answer ps := by
    funext l
    rw [Leaf.look, CodePoint.text?_eq_none_iff.mpr hps]
  have hiff := @judge_iff (Leaf.look answer ps) v (isNameable_of_ordinary hv) Leaf.countsBytes f
    (fun l hl hbytes => by
      rw [hlook]
      exact Leaf.exists_lookBroken (hv l (mem_leaves_of_mem_visited hl)).nameable hbytes)
    (fun l hl hbytes => by
      rw [hlook]
      exact Leaf.lookBroken_of_countsBytes hf hbytes)
  constructor
  · rw [verdictOn, hiff.1, ComesToBytes]
    simp
  · intro g
    rw [verdictOn, hiff.2, hf, ComesToBytes]
    exact and_congr_right' ⟨fun h => by rw [h], fun h => (Except.error.inj h).symm⟩

end Validator

/-- The name of what a spec builds can be written, so that events, listings and schemas can show
it. -/
theorem writeName_of_build {text : String} {depth : Int} {v : Validator}
    (h : build text depth = .ok v) : v.writeName = .ok v.name :=
  Integer.writing_of_short (Validator.isNameable_of_ordinary (ordinary_of_build h)) _

/-- A built validator has a verdict on a text, and calls no custom function for it, exactly where
the check does not come to a leaf that reads integers with a numeral that is too long. Where it
does the check fails for the number of digits. On a value with surrogates it has a verdict exactly
where the check does not come to a leaf that counts bytes; where it does the check fails, since
such a value has no UTF-8 form. -/
theorem run_built_iff {text : String} {depth : Int} {v : Validator}
    (h : build text depth = .ok v) :
    (∀ value,
      ((∃ o, v.run value = ⟨[], .ok o⟩) ↔ ∀ count, ¬ v.Overruns value count) ∧
      ∀ f, (v.run value).result = .error f ↔
        ∃ count, v.Overruns value count ∧ f = .tooManyDigits count) ∧
    ∀ answer,
      (∀ value,
        v.verdictOn answer (CodePoint.ofString value) = Outcome.isAccepted <$> v.run value) ∧
      ∀ ps, ps.any CodePoint.isSurrogate →
        ((∃ b, v.verdictOn answer ps = ⟨[], .ok b⟩) ↔ ¬ v.ComesToBytes answer ps) ∧
        ∀ f, (v.verdictOn answer ps).result = .error f ↔
          v.ComesToBytes answer ps ∧ CodePoint.utf8Length ps = .error f := by
  have hv := ordinary_of_build h
  refine ⟨Validator.run_iff_overruns hv, fun answer => ⟨fun value => ?_, fun ps hps => ?_⟩⟩
  · exact Validator.verdictOn_ofString answer value v
  · exact Validator.verdictOn_iff hv answer hps

/-- A choice takes a long numeral if a spec before that of the integers does. -/
theorem run_built_iff_choice :
    build "oneof(minlength(0),integer)" 0 =
        .ok (.any [.leaf (.length .characters (some 0) none), .leaf .integer]) ∧
      ∃ o, (Validator.any [.leaf (.length .characters (some 0) none), .leaf .integer]).run
        (String.ofList (List.replicate 4301 '1')) = ⟨[], .ok o⟩ := by
  have hbuild : build "oneof(minlength(0),integer)" 0 =
      .ok (.any [.leaf (.length .characters (some 0) none), .leaf .integer]) := by
    have hlookup : lookup? "oneof" = some { name := "oneof", form := .specs .any } :=
      lookup?_of_isLower (by decide)
    have hcall := build_call hlookup (by decide : (0 : Int) ≤ 10) "minlength(0),integer"
    have hargs : (Form.specs .any).shape.split "minlength(0),integer" =
        ["minlength(0)", "integer"] := by
      decide +kernel
    have hlevels : levels (0 + 1) = 10 := rfl
    have hminlength : build "minlength(0)" (0 + 1) =
        .ok (.leaf (.length .characters (some 0) none)) := by
      have hzero : (splitArguments "0").map unescapeValue = ["0"] := by decide +kernel
      have hone := build_minlength (by decide : (0 + 1 : Int) ≤ 10) hzero
      exact hone
    rw [build, hlevels] at hminlength
    rw [hlevels, hargs, Entry.make_specs rfl _ (by simp), List.mapM_cons, List.mapM_cons,
      List.mapM_nil, hminlength, buildAt_integer] at hcall
    exact hcall
  have haccepts : ∀ value, Leaf.accepts value (.length .characters (some 0) none) := by
    intro value
    have hlength : ¬ (value.length : Int) < 0 := by omega
    have hcomplaint : (Leaf.length .characters (some 0) none).complaint? value = .ok none := by
      simp [Leaf.complaint?_length, LengthUnit.size, Leaf.lengthComplaint?, hlength]
    have houtcome : (Leaf.length .characters (some 0) none).outcome value = .ok .accepted := by
      rw [Leaf.outcome_eq, hcomplaint]
    exact Leaf.accepts_of_outcome houtcome
  have hreaches : ∀ value count, ¬ (Validator.any
      [.leaf (.length .characters (some 0) none), .leaf .integer]).Overruns value count := by
    rintro value count ⟨-, l, hl, hreads⟩
    obtain rfl : l = .length .characters (some 0) none := by
      simpa [Validator.mem_visited, Validator.steps, Validator.stepsAny, Validator.eval,
        Validator.evalAny, haccepts] using hl
    cases hreads
  exact ⟨hbuild, ((run_built_iff hbuild).1 _).1.mpr (hreaches _)⟩

/-- A numeral that is too long, checked by the validator of integers, and a lone surrogate, checked
by one that counts bytes. -/
theorem not_run_built_integer :
    (build "integer" 0 = .ok (.leaf .integer) ∧
      (Validator.leaf .integer).run (String.ofList (List.replicate 4301 '1')) =
        ⟨[], .error (.tooManyDigits 4301)⟩) ∧
    build "minbytelength(1)" 0 = .ok (.leaf (.length .bytes (some 1) none)) ∧
      ∀ answer, (Validator.leaf (.length .bytes (some 1) none)).verdictOn answer
        [.surrogate 0x4FF] = ⟨[], .error (.notEncodable 0 [0xDCFF])⟩ := by
  have hbuild : build "integer" 0 = .ok (.leaf .integer) := buildAt_integer 10
  have hordinary : Leaf.integer.IsOrdinary := ordinary_of_build hbuild _ (List.mem_singleton_self _)
  have hlong : Overlong (String.ofList (List.replicate 4301 '1')) 4301 := by
    have hones := @Overlong.ofList (List.replicate 4301 '1')
    rw [List.length_replicate] at hones
    exact hones (by decide) fun c hc => by rw [List.eq_of_mem_replicate hc]; rfl
  have hbytes : build "minbytelength(1)" 0 = .ok (.leaf (.length .bytes (some 1) none)) := by
    have hlookup : lookup? "minbytelength" =
        some { name := "minbytelength", aliases := ["minbytelen"]
               form := lengthForm .bytes fun n => (some n, none) } :=
      lookup?_of_isLower (by decide)
    have hone : (splitArguments "1").map unescapeValue = ["1"] := by decide +kernel
    have hbuilds := build_one hlookup (by decide : (0 : Int) ≤ 10) rfl hone
    exact hbuilds
  refine ⟨⟨hbuild, ?_⟩, hbytes, fun answer => ?_⟩
  · rw [Validator.run, hordinary.calls_eq, hordinary.fails_iff.mpr ⟨rfl, 4301, hlong, rfl⟩]
  · have htext : CodePoint.text? [.surrogate 0x4FF] = none := rfl
    have hbytes : CodePoint.utf8Length [.surrogate 0x4FF] = .error (.notEncodable 0 [0xDCFF]) := by
      decide
    rw [Validator.verdictOn, Validator.judge, Leaf.look, htext]
    exact Leaf.lookBroken_of_countsBytes hbytes rfl

end ValueSpec
