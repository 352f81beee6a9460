import ValueSpec.Pattern.StrictEnd
import ValueSpec.Proofs.Unescaped

/-!
# Places of ends

An end of a pattern is a dollar sign that is neither escaped nor inside of a set. Strict ends are
written in the places of the ends and nowhere else. A strict end is an escape outside of a set: it
opens and closes none, and neither did the dollar sign. So behind it the sets begin and end where
they did, no end is left, and writing strict ends once more changes nothing.
-/

namespace ValueSpec.Pattern

open Glyph

/-- The place after several glyphs. -/
def SetPlace.run (p : SetPlace) (gs : List Glyph) : SetPlace := gs.foldl SetPlace.after p

/-- Read from a place on, a dollar sign stands at an index, unescaped and outside of sets. -/
def IsEnd (p : SetPlace) (cs : List Char) (i : ℕ) : Prop :=
  Unescaped '$' cs i ∧ p.run (ofChars (cs.take i)) = .outside

instance (p : SetPlace) (cs : List Char) : DecidablePred (IsEnd p cs) := fun _ =>
  inferInstanceAs (Decidable (_ ∧ _))

/-- The text with strict ends in the place of the characters at some indices. -/
def markAt (ends : ℕ → Prop) [DecidablePred ends] (cs : List Char) : List Char :=
  (cs.mapIdx fun i c => if ends i then ['\\', 'Z'] else [c]).flatten

/-! ### Marks -/

section

variable {ends others : ℕ → Prop} [DecidablePred ends] [DecidablePred others]

lemma markAt_cons (c : Char) (cs : List Char) :
    markAt ends (c :: cs) =
      (if ends 0 then ['\\', 'Z'] else [c]) ++ markAt (fun i => ends (i + 1)) cs := by
  rw [markAt, List.mapIdx_cons, List.flatten_cons]
  rfl

lemma markAt_congr (h : ∀ i, ends i ↔ others i) (cs : List Char) :
    markAt ends cs = markAt others cs := by
  simp only [markAt, h]

lemma markAt_eq_self (h : ∀ i, ¬ ends i) (cs : List Char) : markAt ends cs = cs := by
  induction cs generalizing ends with
  | nil => rfl
  | cons c cs ih =>
    rw [markAt_cons, if_neg (h 0), ih fun i => h (i + 1)]
    rfl

end

/-! ### Ends of a text -/

namespace IsEnd

variable {p : SetPlace} {cs : List Char} {i : ℕ}

lemma not_nil : ¬ IsEnd p [] i := fun h => Unescaped.nil_iff.mp h.1

lemma zero_iff {c : Char} : IsEnd p (c :: cs) 0 ↔ c = '$' ∧ p = .outside := by
  rw [IsEnd, Unescaped.zero_iff]
  rfl

lemma cons_iff {c : Char} (hc : c ≠ '\\') :
    IsEnd p (c :: cs) (i + 1) ↔ IsEnd (p.after (.plain c)) cs i := by
  rw [IsEnd, Unescaped.cons_iff hc, List.take_succ_cons, ofChars_cons hc]
  rfl

lemma escape_iff {d : Char} :
    IsEnd p ('\\' :: d :: cs) (i + 2) ↔ IsEnd (p.after (.escaped d)) cs i := by
  rw [IsEnd, Unescaped.escape_iff, List.take_succ_cons, List.take_succ_cons, ofChars_backslash]
  rfl

/-- A backslash and the character after it are no ends. -/
lemma not_escape {d : Char} (h : ∀ i, ¬ IsEnd (p.after (.escaped d)) cs i) (i : ℕ) :
    ¬ IsEnd p ('\\' :: d :: cs) i := by
  match i with
  | 0 => simp [zero_iff]
  | 1 => exact fun hend => Unescaped.not_one hend.1
  | i + 2 => exact escape_iff.not.mpr (h i)

lemma not_cons {c : Char} (hc : c ≠ '\\') (hend : ¬ (c = '$' ∧ p = .outside))
    (h : ∀ i, ¬ IsEnd (p.after (.plain c)) cs i) (i : ℕ) : ¬ IsEnd p (c :: cs) i := by
  match i with
  | 0 => exact zero_iff.not.mpr hend
  | i + 1 => exact (cons_iff hc).not.mpr (h i)

end IsEnd

/-! ### Writing strict ends -/

lemma strictGlyph_plain (p : SetPlace) (c : Char) :
    strictGlyph p (.plain c) = if c = '$' ∧ p = .outside then ['\\', 'Z'] else [c] := by
  simp [strictGlyph, chars, and_comm]

lemma strictGlyph_escaped (p : SetPlace) (d : Char) : strictGlyph p (.escaped d) = ['\\', d] := by
  simp [strictGlyph, chars]

lemma strictGlyphs_backslash (p : SetPlace) : strictGlyphs p (ofChars ['\\']) = ['\\'] := by
  simp [ofChars, strictGlyph, chars]

/-- Strict ends are written in the places of the ends. -/
lemma strictGlyphs_eq_markAt (p : SetPlace) (cs : List Char) :
    strictGlyphs p (ofChars cs) = markAt (IsEnd p cs) cs := by
  induction cs using ofChars_induction generalizing p with
  | nil => rfl
  | dangling =>
    rw [strictGlyphs_backslash, markAt_cons, if_neg (by simp [IsEnd.zero_iff])]
    rfl
  | escaped d rest ih =>
    rw [ofChars_backslash, strictGlyphs_cons, strictGlyph_escaped, ih, markAt_cons, markAt_cons,
      if_neg (by simp [IsEnd.zero_iff]), if_neg fun h => Unescaped.not_one h.1]
    exact congrArg _ (markAt_congr (fun _ => IsEnd.escape_iff.symm) rest)
  | plain c rest hc ih =>
    rw [ofChars_cons hc, strictGlyphs_cons, strictGlyph_plain, ih, markAt_cons]
    congr 1
    · exact if_congr IsEnd.zero_iff.symm rfl rfl
    · exact markAt_congr (fun _ => (IsEnd.cons_iff hc).symm) rest

/-- Where strict ends are written no end is left. -/
lemma not_isEnd_strictGlyphs (p : SetPlace) (cs : List Char) (i : ℕ) :
    ¬ IsEnd p (strictGlyphs p (ofChars cs)) i := by
  induction cs using ofChars_induction generalizing p i with
  | nil => exact IsEnd.not_nil
  | dangling =>
    rw [strictGlyphs_backslash]
    exact fun hend => by simpa using hend.1.mem
  | escaped d rest ih =>
    rw [ofChars_backslash, strictGlyphs_cons, strictGlyph_escaped]
    exact IsEnd.not_escape (ih _) i
  | plain c rest hc ih =>
    rw [ofChars_cons hc, strictGlyphs_cons, strictGlyph_plain]
    split_ifs with hend
    · obtain ⟨rfl, rfl⟩ := hend
      -- behind the strict end the place is the same as behind the dollar sign
      have hplace : SetPlace.outside.after (.escaped 'Z') = SetPlace.outside.after (.plain '$') :=
        rfl
      exact IsEnd.not_escape (hplace ▸ ih _) i
    · exact IsEnd.not_cons hc hend (ih _) i

lemma strictEnd_eq (pattern : String) :
    strictEnd pattern =
      String.ofList (markAt (IsEnd .outside pattern.toList) pattern.toList) := by
  rw [strictEnd, ofString, strictGlyphs_eq_markAt]

lemma not_isEnd_strictEnd (pattern : String) (i : ℕ) :
    ¬ IsEnd .outside (strictEnd pattern).toList i := by
  rw [strictEnd, String.toList_ofList, ofString]
  exact not_isEnd_strictGlyphs _ _ i

/-- Where there are no ends nothing changes. -/
lemma strictEnd_eq_self {pattern : String} (h : ∀ i, ¬ IsEnd .outside pattern.toList i) :
    strictEnd pattern = pattern := by
  rw [strictEnd_eq, markAt_eq_self h, String.ofList_toList]

/-- Strict ends are written in the places of the dollar signs that are unescaped and outside of
sets, and nothing else is changed. This leaves no such dollar sign, and so nothing is changed when
strict ends are written again. -/
theorem strictEnd_idempotent (pattern : String) :
    strictEnd (strictEnd pattern) = strictEnd pattern ∧
      strictEnd pattern =
        String.ofList (markAt (IsEnd .outside pattern.toList) pattern.toList) ∧
      (∀ i, ¬ IsEnd .outside (strictEnd pattern).toList i) ∧
      (strictEnd pattern = pattern ↔ ∀ i, ¬ IsEnd .outside pattern.toList i) := by
  refine ⟨strictEnd_eq_self (not_isEnd_strictEnd pattern), strictEnd_eq pattern,
    not_isEnd_strictEnd pattern, ?_, strictEnd_eq_self⟩
  intro hself
  rw [← hself]
  exact not_isEnd_strictEnd pattern

/-- A dollar sign in a set, an escaped one and an end. -/
example : strictEnd "^[$]\\$$" = "^[$]\\$\\Z" := by decide

end ValueSpec.Pattern
