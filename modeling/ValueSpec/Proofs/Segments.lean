import ValueSpec.Proofs.Splitting

/-!
# Closed texts as segments

A text is closed if it can stand in a list by itself: none of its commas separates, and behind it
all brackets are even again and nothing is escaped. Closed texts that are joined by commas are the
segments of what they are joined to, whatever blanks stand around them and among them. On the other
hand every segment of a text is cut no further when it is split again. A cut is made where the
brackets are even, so that a segment is read as if it stood alone, and stripping it takes away
nothing that tells a comma apart.
-/

namespace ValueSpec

/-! ### Glyphs that stay whole -/

namespace Balance

/-- Read from a balance on, no comma separates. -/
def Whole : Balance → List Glyph → Prop
  | _, [] => True
  | b, g :: gs => b.Keeps g ∧ Whole (b.step g) gs

instance decidableWhole : ∀ b gs, Decidable (Whole b gs)
  | _, [] => inferInstanceAs (Decidable True)
  | b, g :: gs =>
    have := decidableWhole (b.step g) gs
    inferInstanceAs (Decidable (b.Keeps g ∧ Whole (b.step g) gs))

variable {b : Balance} {gs hs : List Glyph}

lemma isEven_iff_eq_zero : b.isEven ↔ b = zero := by
  obtain ⟨round, curly⟩ := b
  simp [isEven, zero]

lemma run_cons (g : Glyph) : b.run (g :: gs) = (b.step g).run gs := rfl

/-- Glyphs settle if they stay whole, the brackets are even behind them and nothing dangles. -/
lemma settles_keeps_iff :
    Settles Keeps b gs ↔ Whole b gs ∧ b.run gs = zero ∧ .dangling ∉ gs := by
  induction gs generalizing b with
  | nil => simp [Settles, Whole, run]
  | cons g gs ih =>
    rw [Settles, Whole, ih, run_cons, List.mem_cons, not_or]
    constructor
    · rintro ⟨hdangling, hkeeps, hwhole, hrun, hrest⟩
      exact ⟨⟨hkeeps, hwhole⟩, hrun, Ne.symm hdangling, hrest⟩
    · rintro ⟨⟨hkeeps, hwhole⟩, hrun, hdangling, hrest⟩
      exact ⟨Ne.symm hdangling, hkeeps, hwhole, hrun, hrest⟩

lemma whole_append_iff : Whole b (gs ++ hs) ↔ Whole b gs ∧ Whole (b.run gs) hs := by
  induction gs generalizing b with
  | nil => simp [Whole, run]
  | cons g gs ih => rw [List.cons_append, Whole, Whole, ih, run_cons, and_assoc]

/-- The beginning of a text has no commas but those of the text. If it ends within a glyph, all that
is left of the glyph is a backslash. -/
lemma Whole.of_append {cs : List Char} (r : List Char) (h : Whole b (Glyph.ofChars (cs ++ r))) :
    Whole b (Glyph.ofChars cs) := by
  induction cs using Glyph.ofChars_induction generalizing b with
  | nil => trivial
  | dangling =>
    refine ⟨?_, trivial⟩
    intro hcomma
    cases hcomma
  | escaped d rest ih =>
    rw [List.cons_append, List.cons_append, Glyph.ofChars_backslash] at h
    rw [Glyph.ofChars_backslash]
    exact ⟨h.1, ih h.2⟩
  | plain c rest hc ih =>
    rw [List.cons_append, Glyph.ofChars_cons hc] at h
    rw [Glyph.ofChars_cons hc]
    exact ⟨h.1, ih h.2⟩

/-- A text that stays whole does so without the blanks around it. -/
lemma Whole.stripChars {cs : List Char} (h : Whole zero (Glyph.ofChars cs)) :
    Whole zero (Glyph.ofChars (Text.stripChars cs)) := by
  obtain ⟨l, r, hcs, hl, -⟩ := Text.exists_pad cs
  obtain ⟨-, hrun, hdangling⟩ :=
    settles_keeps_iff.mp ((settles_blanks hl).mono fun _ _ => Nests.keeps)
  rw [hcs] at h
  have hleft := h.of_append r
  rw [Glyph.ofChars_append hdangling, whole_append_iff, hrun] at hleft
  exact hleft.2

end Balance

open Balance

namespace Splitting

variable {b : Balance} {gs : List Glyph}

lemma cut_of_whole (h : Whole b gs) : cut b gs = [gs] := by
  induction gs generalizing b with
  | nil => rfl
  | cons g gs ih =>
    have hcomma : ¬ (g = .plain ',' ∧ b.isEven) := by
      rintro ⟨hg, heven⟩
      simp [h.1 hg] at heven
    rw [cut, if_neg (by simpa using hcomma), ih h.2]

/-- The first segment stays whole where it stands, and the others do so at the beginning of a text,
because each of them comes behind a cut. -/
lemma whole_of_cut {first : List Glyph} {rest : List (List Glyph)}
    (h : cut b gs = first :: rest) : Whole b first ∧ ∀ segment ∈ rest, Whole zero segment := by
  induction gs generalizing b first rest with
  | nil =>
    obtain ⟨rfl, rfl⟩ : [] = first ∧ [] = rest := by simpa [cut] using h
    exact ⟨trivial, by simp⟩
  | cons g gs ih =>
    obtain ⟨next, others, hcut⟩ := List.exists_cons_of_ne_nil (cut_ne_nil (b.step g) gs)
    obtain ⟨hnext, hothers⟩ := ih hcut
    by_cases hcomma : g = .plain ',' ∧ b.isEven
    · obtain ⟨rfl, heven⟩ := hcomma
      obtain rfl : b = zero := isEven_iff_eq_zero.mp heven
      rw [cut_cons_comma] at h
      obtain ⟨rfl, rfl⟩ : [] = first ∧ cut zero gs = rest := by simpa using h
      have hrest : cut zero gs = next :: others := hcut
      refine ⟨trivial, ?_⟩
      rw [hrest]
      exact List.forall_mem_cons.mpr ⟨hnext, hothers⟩
    · rw [cut, if_neg (by simpa using hcomma), hcut] at h
      obtain ⟨rfl, rfl⟩ : g :: next = first ∧ others = rest := by simpa using h
      refine ⟨⟨?_, hnext⟩, hothers⟩
      intro hg
      simpa [hg] using hcomma

lemma whole_of_mem_cut {segment : List Glyph} (h : segment ∈ cut zero gs) : Whole zero segment := by
  obtain ⟨first, rest, hcut⟩ := List.exists_cons_of_ne_nil (cut_ne_nil zero gs)
  obtain ⟨hfirst, hrest⟩ := whole_of_cut hcut
  rw [hcut] at h
  rcases List.mem_cons.mp h with rfl | hmem
  · exact hfirst
  · exact hrest segment hmem

end Splitting

/-! ### Segments of a text -/

lemma splitArguments_of_whole {s : String} (hne : s ≠ "") (hstrip : Text.strip s = s)
    (h : Whole zero (Glyph.ofString s)) : splitArguments s = [s] := by
  have hchars : Text.stripChars s.toList = s.toList := by rw [← Text.toList_strip, hstrip]
  rw [splitArguments, Splitting.segments, Splitting.cut_of_whole h]
  simp [Glyph.ofString, hchars, hne]

/-- Every segment has characters, is stripped and stays whole. -/
lemma whole_of_mem_splitArguments {t s : String} (h : s ∈ splitArguments t) :
    s ≠ "" ∧ Text.strip s = s ∧ Whole zero (Glyph.ofString s) := by
  rw [splitArguments, Splitting.segments_eq_filter, List.mem_filter] at h
  obtain ⟨hmem, hne⟩ := h
  obtain ⟨gs, hgs, rfl⟩ := List.mem_map.mp hmem
  have hwhole : Whole zero (Glyph.ofChars (gs.flatMap Glyph.chars)) := by
    have hread : Glyph.ofChars (gs.flatMap Glyph.chars) = gs :=
      Splitting.ofChars_toChars_of_mem_cut hgs
    rw [hread]
    exact Splitting.whole_of_mem_cut hgs
  refine ⟨by simpa using hne, ?_, ?_⟩
  · simp [Text.strip]
  · rw [Glyph.ofString, Text.toList_strip, String.toList_ofList]
    exact hwhole.stripChars

/-! ### Closed texts -/

/-- A text that can be a segment: it is not empty and stripped, none of its commas separates, and at
the end of it the brackets are even and nothing is escaped. -/
structure Closed (s : String) : Prop where
  nonempty : s ≠ ""
  stripped : Text.strip s = s
  whole : Whole zero (Glyph.ofString s)
  even : zero.run (Glyph.ofString s) = zero
  complete : .dangling ∉ Glyph.ofString s

/-- Segments in the way they may be written: with blanks around each of them, and with blank texts
anywhere among them. -/
inductive Spread : List String → List String → Prop
  | nil : Spread [] []
  | blank {gap : String} {segments pieces : List String} :
      Text.isBlankText gap → Spread segments pieces → Spread segments (gap :: pieces)
  | segment {left s right : String} {segments pieces : List String} :
      Text.isBlankText left → Text.isBlankText right → Spread segments pieces →
      Spread (s :: segments) ((left ++ s ++ right) :: pieces)

namespace Spread

variable {segments pieces : List String}

/-- What closed segments are written with settles. -/
lemma settles (h : Spread segments pieces) (hclosed : ∀ s ∈ segments, Closed s) :
    ∀ p ∈ pieces, Settles Keeps zero (Glyph.ofString p) := by
  induction h with
  | nil => simp
  | blank hgap _ ih =>
    have hblanks := settles_blanks (Text.isBlankText_iff.mp hgap)
    exact List.forall_mem_cons.mpr ⟨hblanks.mono fun _ _ => Nests.keeps, ih hclosed⟩
  | segment hleft hright _ ih =>
    obtain ⟨hs, hrest⟩ := List.forall_mem_cons.mp hclosed
    refine List.forall_mem_cons.mpr ⟨?_, ih hrest⟩
    have hsettles := settles_keeps_iff.mpr ⟨hs.whole, hs.even, hs.complete⟩
    rw [Glyph.ofString, String.toList_append, String.toList_append]
    exact hsettles.pad (fun _ _ => Nests.keeps) (Text.isBlankText_iff.mp hleft)
      (Text.isBlankText_iff.mp hright)

/-- Without blanks and blank texts there are the segments. -/
lemma filter_strip (h : Spread segments pieces) (hclosed : ∀ s ∈ segments, Closed s) :
    (pieces.map Text.strip).filter (· ≠ "") = segments := by
  induction h with
  | nil => rfl
  | @blank gap _ _ hgap _ ih =>
    have hstrip : Text.strip gap = "" := by
      rw [Text.strip, Text.stripChars_eq_nil_iff.mpr (Text.isBlankText_iff.mp hgap)]
    rw [List.map_cons, List.filter_cons_of_neg (by simp [hstrip]), ih hclosed]
  | @segment left s right _ _ hleft hright _ ih =>
    obtain ⟨hs, hrest⟩ := List.forall_mem_cons.mp hclosed
    have hstrip : Text.strip (left ++ s ++ right) = s := by
      rw [Text.strip, String.toList_append, String.toList_append,
        Text.stripChars_pad (Text.isBlankText_iff.mp hleft) (Text.isBlankText_iff.mp hright),
        ← Text.toList_strip, hs.stripped, String.ofList_toList]
    rw [List.map_cons, List.filter_cons_of_pos (by simp [hstrip, hs.nonempty]), hstrip, ih hrest]

/-- What closed segments are written with is split into them. -/
lemma splitArguments_eq (h : Spread segments pieces) (hclosed : ∀ s ∈ segments, Closed s) :
    splitArguments (",".intercalate pieces) = segments := by
  rw [← h.filter_strip hclosed]
  by_cases hne : pieces = []
  · rw [hne]
    rfl
  rw [splitArguments, Splitting.segments_eq_filter, intercalate_eq_ofList,
    Splitting.cut_ofString_intercalate (by simpa using hne)]
  · simp [Function.comp_def]
  · intro cs hcs
    obtain ⟨p, hp, rfl⟩ := List.mem_map.mp hcs
    exact h.settles hclosed p hp

end Spread

/-- Closed texts are the segments of the text in which they are joined, whatever blanks and blank
texts are put around and among them. Each segment of a text is not empty, is stripped and is its own
only segment. -/
theorem splitArguments_closed :
    (∀ segments pieces : List String, (∀ s ∈ segments, Closed s) → Spread segments pieces →
      splitArguments (",".intercalate pieces) = segments) ∧
    ∀ t : String, ∀ s ∈ splitArguments t,
      s ≠ "" ∧ Text.strip s = s ∧ splitArguments s = [s] := by
  constructor
  · intro segments pieces hclosed hspread
    exact hspread.splitArguments_eq hclosed
  · intro t s hs
    obtain ⟨hne, hstrip, hwhole⟩ := whole_of_mem_splitArguments hs
    exact ⟨hne, hstrip, splitArguments_of_whole hne hstrip hwhole⟩

/-- Segments with brackets of both kinds and with an escaped comma, among blank texts; and a segment
of which an escaped blank was cut. -/
theorem splitArguments_closed_blanks :
    splitArguments ", \t,f(a,\x7bb\x7d) ,,\\(\\,\n" = ["f(a,\x7bb\x7d)", "\\(\\,"] ∧
      splitArguments "a\\ ,b" = ["a\\", "b"] ∧ splitArguments "a\\" = ["a\\"] := by
  have hclosed : ∀ s ∈ ["f(a,\x7bb\x7d)", "\\(\\,"], Closed s := by
    simp only [List.forall_mem_cons]
    exact ⟨⟨by decide, by decide, by decide, by decide, by decide⟩,
      ⟨by decide, by decide, by decide, by decide, by decide⟩, by simp⟩
  have hspread : Spread ["f(a,\x7bb\x7d)", "\\(\\,"]
      ["", " \t", "" ++ "f(a,\x7bb\x7d)" ++ " ", "", "" ++ "\\(\\," ++ "\n"] :=
    .blank rfl (.blank rfl (.segment rfl rfl (.blank rfl (.segment rfl rfl .nil))))
  have hsplit : splitArguments "a\\ ,b" = ["a\\", "b"] := by decide
  refine ⟨splitArguments_closed.1 _ _ hclosed hspread, hsplit, ?_⟩
  exact (splitArguments_closed.2 "a\\ ,b" "a\\" (by rw [hsplit]; simp)).2.2

end ValueSpec
