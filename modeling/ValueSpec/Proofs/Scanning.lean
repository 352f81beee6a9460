import Mathlib.Order.Bounds.Defs
import ValueSpec.Proofs.Brackets
import ValueSpec.Proofs.Calls

/-!
# Scanning

A text can be cut while it is read once from left to right, character by character. Such a scan
keeps a flag that is up behind a backslash with a meaning; the next character is escaped then,
whatever it is, and takes the flag down again. The flag is up exactly where an odd number of
backslashes has just been read. So the search for an unescaped character, which is about these
numbers, finds the first one that the scan does not take for escaped, and the parenthesis that opens
the arguments of a spec is the first one that the scan counts.
-/

namespace ValueSpec

namespace Splitting

/-- What a scan knows of the characters that it has read. -/
structure Scan where
  /-- The segments before the last separating comma. -/
  segments : List String := []
  /-- What has been written out since this comma. -/
  current : List Char := []
  balance : Balance := .zero
  /-- Will the next character be escaped? -/
  escaped : Bool := false
  deriving DecidableEq, Repr

namespace Scan

/-- What has been written out becomes a segment, if it is not blank. -/
def flush (scan : Scan) : Scan :=
  { scan with
    segments := scan.segments ++ [Text.strip (String.ofList scan.current)].filter (· ≠ "")
    current := [] }

section

variable (decode : Glyph → List Char)

/-- A glyph is written out. -/
def pass (scan : Scan) (g : Glyph) : Scan :=
  { scan with
    current := scan.current ++ decode g
    balance := scan.balance.step g
    escaped := false }

/-- The next character is read. -/
def step (scan : Scan) (c : Char) : Scan :=
  if scan.escaped then scan.pass decode (.escaped c)
  else if c = '\\' then { scan with escaped := true }
  else if c = ',' && scan.balance.isEven then scan.flush
  else scan.pass decode (.plain c)

/-- A text is read from its beginning. -/
def run (cs : List Char) : Scan := cs.foldl (step decode) {}

/-- The segments at the end of the text. -/
def finish (scan : Scan) : List String :=
  (if scan.escaped then scan.pass decode .dangling else scan).flush.segments

/-- The flag is up when the scan reaches an index. -/
def MidEscape (cs : List Char) (i : ℕ) : Prop := (run decode (cs.take i)).escaped

/-- At an index the scan counts one more open parenthesis. -/
def Raises (cs : List Char) (i : ℕ) : Prop :=
  (run decode (cs.take i)).balance.round < (run decode (cs.take (i + 1))).balance.round

instance (cs : List Char) : DecidablePred (MidEscape decode cs) := fun _ =>
  inferInstanceAs (Decidable (_ = true))

end

variable {decode : Glyph → List Char}

/-! ### Steps -/

lemma step_of_escaped {scan : Scan} (h : scan.escaped) (c : Char) :
    scan.step decode c = scan.pass decode (.escaped c) := if_pos h

lemma step_backslash {scan : Scan} (h : scan.escaped = false) :
    scan.step decode '\\' = { scan with escaped := true } := by
  simp [step, h]

lemma step_plain {scan : Scan} (h : scan.escaped = false) {c : Char} (hc : c ≠ '\\') :
    scan.step decode c =
      if c = ',' && scan.balance.isEven then scan.flush else scan.pass decode (.plain c) := by
  rw [step, if_neg (by simp [h]), if_neg hc]

/-- A backslash puts the flag up or, where it is up already, down; behind any other character it is
down. -/
lemma escaped_step (scan : Scan) (c : Char) :
    (scan.step decode c).escaped = (decide (c = '\\') && !scan.escaped) := by
  cases h : scan.escaped with
  | true =>
    rw [step_of_escaped h]
    simp [pass]
  | false =>
    by_cases hc : c = '\\'
    · subst hc
      rw [step_backslash h]
      rfl
    · rw [step_plain h hc]
      split_ifs <;> simp [flush, pass, h, hc]

/-- A parenthesis is counted where the flag is down, and nothing else makes the count go up. -/
lemma round_lt_round_step_iff (scan : Scan) (c : Char) :
    scan.balance.round < (scan.step decode c).balance.round ↔
      c = '(' ∧ scan.escaped = false := by
  have hcount (g : Glyph) : (scan.balance.step g).round = scan.balance.round +
      if g = .plain '(' then 1 else if g = .plain ')' then -1 else 0 :=
    Bracket.round.count_step scan.balance g
  cases h : scan.escaped with
  | true =>
    rw [step_of_escaped h, pass, hcount]
    simp
  | false =>
    by_cases hc : c = '\\'
    · subst hc
      rw [step_backslash h]
      simp
    · rw [step_plain h hc]
      split_ifs with hcomma
      · simp only [Bool.and_eq_true, decide_eq_true_eq] at hcomma
        simp [flush, hcomma.1]
      · rw [pass, hcount]
        simp only [Glyph.plain.injEq, and_true]
        split_ifs with hopen
        · simp only [hopen, iff_true]
          omega
        · simp only [hopen, iff_false]
          omega
        · simp [hopen]

/-! ### Runs -/

lemma run_take_succ {cs : List Char} {i : ℕ} {c : Char} (h : cs[i]? = some c) :
    run decode (cs.take (i + 1)) = (run decode (cs.take i)).step decode c := by
  rw [run, List.take_add_one, h, List.foldl_append]
  rfl

lemma take_succ_of_none {cs : List Char} {i : ℕ} (h : cs[i]? = none) :
    cs.take (i + 1) = cs.take i := by
  rw [List.take_add_one, h, Option.toList_none, List.append_nil]

/-- The flag is up behind an odd number of backslashes. -/
lemma midEscape_iff (cs : List Char) (i : ℕ) :
    MidEscape decode cs i ↔ backslashesBefore cs i % 2 = 1 := by
  induction i with
  | zero => simp [MidEscape, run]
  | succ i ih =>
    cases hchar : cs[i]? with
    | none =>
      rw [MidEscape, take_succ_of_none hchar, backslashesBefore, take_succ_of_none hchar]
      exact ih
    | some c =>
      rw [MidEscape, run_take_succ hchar, escaped_step, backslashesBefore_succ hchar]
      by_cases hc : c = '\\'
      · rw [MidEscape] at ih
        rw [if_pos hc, decide_eq_true hc, Bool.true_and, Bool.not_eq_true', ← Bool.not_eq_true,
          ih]
        omega
      · simp [hc]

lemma unescaped_iff (decode : Glyph → List Char) {t : Char} {cs : List Char} {i : ℕ} :
    Unescaped t cs i ↔ cs[i]? = some t ∧ ¬ MidEscape decode cs i := by
  rw [Unescaped, midEscape_iff, Nat.mod_two_not_eq_one]

lemma raises_iff {cs : List Char} {i : ℕ} : Raises decode cs i ↔ Unescaped '(' cs i := by
  rw [unescaped_iff decode, Raises]
  cases hchar : cs[i]? with
  | none => simp [take_succ_of_none hchar]
  | some c =>
    rw [run_take_succ hchar, round_lt_round_step_iff, MidEscape]
    simp

/-! ### Scanning and cutting -/

/-- The segments of texts that were written out between separating commas. -/
def kept (css : List (List Char)) : List String :=
  (css.map fun cs => Text.strip (String.ofList cs)).filter (· ≠ "")

/-- The texts that are not segments yet: what the glyphs ahead are cut into, with the text that has
been begun in front of the first. -/
def ahead (decode : Glyph → List Char) (scan : Scan) (gs : List Glyph) : List (List Char) :=
  ((cut scan.balance gs).map (·.flatMap decode)).modifyHead (scan.current ++ ·)

lemma ahead_nil (scan : Scan) : scan.ahead decode [] = [scan.current] := by
  simp [ahead, cut]

/-- A glyph that does not separate is written out and left behind. -/
lemma ahead_pass {scan : Scan} {g : Glyph} (h : ¬ (g = .plain ',' && scan.balance.isEven))
    (gs : List Glyph) : (scan.pass decode g).ahead decode gs = scan.ahead decode (g :: gs) := by
  rw [ahead, ahead, cut, if_neg h, pass]
  obtain ⟨first, rest, hcut⟩ := List.exists_cons_of_ne_nil (cut_ne_nil (scan.balance.step g) gs)
  simp [hcut]

/-- A comma that separates makes a segment of what has been written out. -/
lemma kept_ahead_flush {scan : Scan} (h : scan.balance.isEven) (gs : List Glyph) :
    scan.flush.segments ++ kept (scan.flush.ahead decode gs) =
      scan.segments ++ kept (scan.ahead decode (.plain ',' :: gs)) := by
  obtain ⟨first, rest, hcut⟩ := List.exists_cons_of_ne_nil (cut_ne_nil scan.balance gs)
  simp only [ahead, cut, flush, kept, h, hcut, decide_true, Bool.and_self, if_true, List.map_cons,
    List.modifyHead_cons, List.flatMap_nil, List.append_nil, List.nil_append, List.append_assoc]
  rw [← List.filter_append, List.singleton_append]

/-- From between two glyphs on, a scan finds the segments that the rest of the text is cut into. -/
lemma finish_foldl {scan : Scan} (h : scan.escaped = false) (cs : List Char) :
    (cs.foldl (step decode) scan).finish decode =
      scan.segments ++ kept (scan.ahead decode (Glyph.ofChars cs)) := by
  -- an escape is two steps of the scan and one glyph, hence the induction on glyphs
  induction cs using Glyph.ofChars_induction generalizing scan with
  | nil =>
    rw [List.foldl_nil, finish, if_neg (by simp [h]), Glyph.ofChars_nil, ahead_nil]
    rfl
  | dangling =>
    have hdangling : (scan.pass decode .dangling).ahead decode [] =
        scan.ahead decode [.dangling] := ahead_pass (by simp) []
    rw [Glyph.ofChars, if_pos rfl, List.foldl_cons, List.foldl_nil, step_backslash h, finish,
      if_pos rfl, ← hdangling, ahead_nil]
    rfl
  | escaped d rest ih =>
    rw [Glyph.ofChars_backslash, List.foldl_cons, List.foldl_cons, step_backslash h,
      step_of_escaped rfl, ih rfl, ← ahead_pass (by simp)]
    rfl
  | plain c rest hc ih =>
    rw [List.foldl_cons, step_plain h hc, Glyph.ofChars_cons hc]
    split_ifs with hcomma
    · simp only [Bool.and_eq_true, decide_eq_true_eq] at hcomma
      rw [hcomma.1, ← kept_ahead_flush hcomma.2]
      exact ih h
    · rw [← ahead_pass (by simpa using hcomma)]
      exact ih rfl

/-- Cutting a text is scanning it. -/
lemma finish_run (decode : Glyph → List Char) (s : String) :
    (run decode s.toList).finish decode = Splitting.segments decode s := by
  rw [run, finish_foldl rfl, segments_eq_filter, kept, ahead]
  have hhead (css : List (List Char)) : css.modifyHead ([] ++ ·) = css := by
    cases css <;> rfl
  rw [hhead, List.map_map]
  rfl

/-- Between two glyphs the flag is down, and behind a dangling backslash it stays up. -/
lemma escaped_foldl_iff {scan : Scan} (h : scan.escaped = false) (cs : List Char) :
    (cs.foldl (step decode) scan).escaped ↔ .dangling ∈ Glyph.ofChars cs := by
  induction cs using Glyph.ofChars_induction generalizing scan with
  | nil => simp [h]
  | dangling => simp [Glyph.ofChars, escaped_step, h]
  | escaped d rest ih =>
    rw [List.foldl_cons, List.foldl_cons, ih (by simp [escaped_step, h]), Glyph.ofChars_backslash]
    simp
  | plain c rest hc ih =>
    rw [List.foldl_cons, ih (by simp [escaped_step, hc]), Glyph.ofChars_cons hc]
    simp

lemma midEscape_iff_dangling (cs : List Char) (i : ℕ) :
    MidEscape decode cs i ↔ .dangling ∈ Glyph.ofChars (cs.take i) :=
  escaped_foldl_iff rfl _

end Scan

end Splitting

/-! ### Searching and scanning -/

/-- The first index in the order of the indices. -/
lemma firstUnescaped_iff_isLeast {t : Char} {cs : List Char} {i : ℕ} :
    FirstUnescaped t cs i ↔ IsLeast {j | Unescaped t cs j} i := by
  constructor
  · rintro ⟨hi, hmin⟩
    exact ⟨hi, fun j hj => not_lt.mp fun hlt => hmin j hlt hj⟩
  · rintro ⟨hi, hmin⟩
    exact ⟨hi, fun j hlt hj => hlt.not_ge (hmin hj)⟩

open Splitting Splitting.Scan in
/-- Arguments and lists of specs are cut by scans, and all scans agree with the search on what is
escaped. The flag of a scan is up at an index if an odd number of backslashes stands directly before
it, which is where the glyphs before the index end with a dangling backslash. The search finds the
first character that is not escaped for the scans. What opens the arguments of a spec is the first
parenthesis that the scans count. -/
theorem scans_agree (s : String) :
    splitArguments s = (run Glyph.chars s.toList).finish Glyph.chars ∧
    splitSpecs s =
      (run (Glyph.decode specEscapes) s.toList).finish (Glyph.decode specEscapes) ∧
    ∀ decode,
      (∀ i, MidEscape decode s.toList i ↔ backslashesBefore s.toList i % 2 = 1) ∧
      (∀ i, MidEscape decode s.toList i ↔ .dangling ∈ Glyph.ofChars (s.toList.take i)) ∧
      (∀ target, target ≠ '\\' →
        (∀ i, findUnescaped? s target = some i ↔
          IsLeast {j | s.toList[j]? = some target ∧ ¬ MidEscape decode s.toList j} i) ∧
        (findUnescaped? s target = none ↔
          ∀ i, s.toList[i]? = some target → MidEscape decode s.toList i)) ∧
      let cs := Text.stripChars s.toList
      (∀ i, Raises decode cs i → cs[i]? = some '(') ∧
      (∀ i, findUnescaped? (Text.strip s) '(' = some i ↔ IsLeast {j | Raises decode cs j} i) ∧
      (∀ i, IsLeast {j | Raises decode cs j} i → ∀ shapeOf call,
        Call.parse shapeOf s = .ok call ↔ Call.OpenedAt shapeOf cs i call) ∧
      ((∀ i, ¬ Raises decode cs i) → ∀ shapeOf call, Call.parse shapeOf s = .ok call ↔
        cs ≠ [] ∧ (∀ i, ¬ Unescaped ':' cs i) ∧ call = { name := Text.strip s }) := by
  refine ⟨(finish_run _ s).symm, (finish_run _ s).symm, fun decode => ⟨midEscape_iff _,
    midEscape_iff_dangling _, fun target htarget => ⟨fun i => ?_, ?_⟩, ?_, ?_, ?_, ?_⟩⟩
  · rw [findUnescaped?_eq_some_iff htarget, firstUnescaped_iff_isLeast]
    simp only [unescaped_iff decode]
  · rw [findUnescaped?_eq_none_iff htarget]
    simp only [unescaped_iff decode, not_and, not_not]
  · intro i hi
    exact (raises_iff.mp hi).1
  · intro i
    simp only [raises_iff]
    rw [findUnescaped?_eq_some_iff (by decide), firstUnescaped_iff_isLeast, Text.toList_strip]
  · intro i hi shapeOf call
    simp only [raises_iff, ← firstUnescaped_iff_isLeast] at hi
    exact Call.parse_opened_eq_ok_iff shapeOf rfl hi
  · intro hnone shapeOf call
    simp only [raises_iff] at hnone
    exact Call.parse_not_opened_eq_ok_iff shapeOf rfl hnone

open Splitting Splitting.Scan in
/-- A parenthesis behind one backslash is passed over, and one behind two opens the arguments. -/
theorem scans_agree_backslashes :
    ('(' ≠ '\\' ∧ IsLeast {j | "re\\(x\\\\(a,b)".toList[j]? = some '(' ∧
      ¬ MidEscape Glyph.chars "re\\(x\\\\(a,b)".toList j} 7) ∧
    (IsLeast {j | Raises Glyph.chars "re\\(x\\\\(a,b)".toList j} 7 ∧
      "re\\(x\\\\(a,b)".toList[7]? = some '(' ∧
      Call.parse (fun _ => .list) "re\\(x\\\\(a,b)" =
        .ok { name := "re\\(x\\\\", rawArgs := "a,b", args := ["a", "b"] }) ∧
    ((∀ i, ¬ Raises Glyph.chars "re\\(x".toList i) ∧
      Call.parse (fun _ => .list) "re\\(x" = .ok { name := "re\\(x" }) := by
  obtain ⟨-, -, hsearch, hparenthesis, hopener, hopened, -⟩ :=
    (scans_agree "re\\(x\\\\(a,b)").2.2 Glyph.chars
  have hfirst : IsLeast {j | Raises Glyph.chars "re\\(x\\\\(a,b)".toList j} 7 :=
    (hopener 7).mp (by decide)
  have hnone : ∀ i, ¬ Raises Glyph.chars "re\\(x".toList i := by
    simp only [raises_iff]
    decide
  refine ⟨⟨by decide, ?_⟩, ⟨hfirst, hparenthesis 7 hfirst.1, ?_⟩, hnone, ?_⟩
  · exact ((hsearch '(' (by decide)).1 7).mp (by decide)
  · exact (hopened 7 hfirst _ _).mpr
      ⟨by decide, by decide, by decide, by decide, by decide⟩
  · obtain ⟨-, -, -, -, -, -, hnamed⟩ := (scans_agree "re\\(x").2.2 Glyph.chars
    exact (hnamed hnone _ _).mpr ⟨by decide, by decide, by decide⟩

end ValueSpec
