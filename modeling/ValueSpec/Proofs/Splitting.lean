import Mathlib.Data.List.Basic
import ValueSpec.Proofs.Text
import ValueSpec.Splitting

/-!
# Splitting texts that were put together

Texts without a dangling backslash can be read one after the other. A text that keeps its commas
inside of brackets and evens its brackets out is one segment, and so the texts of which such a list
was joined are the segments of the list.
-/

namespace ValueSpec

/-! ### Reading one text after another -/

namespace Glyph

lemma ofChars_cons {c : Char} (hc : c ≠ '\\') (cs : List Char) :
    ofChars (c :: cs) = plain c :: ofChars cs := by
  cases cs with
  | nil => simp [ofChars, hc]
  | cons d rest => simp [ofChars, hc]

lemma ofChars_backslash (d : Char) (cs : List Char) :
    ofChars ('\\' :: d :: cs) = escaped d :: ofChars cs := if_pos rfl

/-- Induction on a text that is read as glyphs. -/
@[elab_as_elim]
lemma ofChars_induction {motive : List Char → Prop} (nil : motive []) (dangling : motive ['\\'])
    (escaped : ∀ d cs, motive cs → motive ('\\' :: d :: cs))
    (plain : ∀ c cs, c ≠ '\\' → motive cs → motive (c :: cs)) (cs : List Char) : motive cs := by
  induction cs using ofChars.induct with
  | case1 => exact nil
  | case2 => exact dangling
  | case3 c hc => exact plain c [] hc nil
  | case4 d rest ih => exact escaped d rest ih
  | case5 c d rest hc ih => exact plain c (d :: rest) hc ih

lemma ofChars_append {cs : List Char} (h : dangling ∉ ofChars cs) (ds : List Char) :
    ofChars (cs ++ ds) = ofChars cs ++ ofChars ds := by
  induction cs using ofChars_induction with
  | nil => rfl
  | dangling => simp [ofChars] at h
  | escaped d rest ih =>
    rw [ofChars_backslash, List.mem_cons, not_or] at h
    rw [List.cons_append, List.cons_append, ofChars_backslash, ofChars_backslash, ih h.2,
      List.cons_append]
  | plain c rest hc ih =>
    rw [ofChars_cons hc, List.mem_cons, not_or] at h
    rw [List.cons_append, ofChars_cons hc, ofChars_cons hc, ih h.2, List.cons_append]

/-- Where a backslash dangles, the text before it is complete. -/
lemma exists_of_dangling_mem {cs : List Char} (h : dangling ∈ ofChars cs) :
    ∃ ds, cs = ds ++ ['\\'] ∧ dangling ∉ ofChars ds := by
  induction cs using ofChars_induction with
  | nil => simp at h
  | dangling => exact ⟨[], rfl, by simp⟩
  | escaped d rest ih =>
    rw [ofChars_backslash] at h
    obtain ⟨ds, rfl, hds⟩ := ih (by simpa using h)
    exact ⟨'\\' :: d :: ds, rfl, by simpa [ofChars_backslash] using hds⟩
  | plain c rest hc ih =>
    rw [ofChars_cons hc] at h
    obtain ⟨ds, hrest, hds⟩ := ih (by simpa using h)
    exact ⟨c :: ds, by rw [hrest]; rfl, by simpa [ofChars_cons hc] using hds⟩

/-- A text without backslashes has plain characters only. -/
lemma ofChars_eq_map {cs : List Char} (h : '\\' ∉ cs) : ofChars cs = cs.map plain := by
  induction cs with
  | nil => rfl
  | cons c rest ih =>
    simp only [List.mem_cons, not_or] at h
    rw [ofChars_cons (Ne.symm h.1), ih h.2, List.map_cons]

@[simp] lemma flatMap_chars_ofChars (cs : List Char) : (ofChars cs).flatMap chars = cs :=
  toChars_ofChars cs

end Glyph

/-! ### Texts that even out -/

namespace Balance

/-- Every glyph read from a balance on is allowed where it stands, nothing dangles, and in the end
every kind of bracket is even. -/
def Settles (allowed : Balance → Glyph → Prop) : Balance → List Glyph → Prop
  | b, [] => b = zero
  | b, g :: gs => g ≠ .dangling ∧ allowed b g ∧ Settles allowed (b.step g) gs

/-- A glyph that does not separate. -/
def Keeps (b : Balance) (g : Glyph) : Prop := g = .plain ',' → b.isEven = false

/-- A glyph that closes only what is open; a comma must stand inside of brackets. -/
def Nests (b : Balance) (g : Glyph) : Prop :=
  0 ≤ (b.step g).round ∧ 0 ≤ (b.step g).curly ∧ (g = .plain ',' → 0 < b.round ∨ 0 < b.curly)

/-- A glyph that closes only what is open. -/
def Opens (b : Balance) (g : Glyph) : Prop := 0 ≤ (b.step g).round ∧ 0 ≤ (b.step g).curly

instance decidableNests (b : Balance) (g : Glyph) : Decidable (b.Nests g) :=
  inferInstanceAs (Decidable (0 ≤ (b.step g).round ∧ 0 ≤ (b.step g).curly ∧
    (g = .plain ',' → 0 < b.round ∨ 0 < b.curly)))

instance decidableKeeps (b : Balance) (g : Glyph) : Decidable (b.Keeps g) :=
  inferInstanceAs (Decidable (g = .plain ',' → b.isEven = false))

variable {allowed other : Balance → Glyph → Prop}

instance decidableSettles [∀ b g, Decidable (allowed b g)] :
    ∀ b gs, Decidable (Settles allowed b gs)
  | b, [] => inferInstanceAs (Decidable (b = zero))
  | b, g :: gs =>
    have := decidableSettles (b.step g) gs
    inferInstanceAs (Decidable (g ≠ .dangling ∧ allowed b g ∧ Settles allowed (b.step g) gs))

lemma Settles.mono (h : ∀ b g, allowed b g → other b g) {b : Balance} {gs : List Glyph}
    (hs : Settles allowed b gs) : Settles other b gs := by
  induction gs generalizing b with
  | nil => exact hs
  | cons g gs ih => exact ⟨hs.1, h b g hs.2.1, ih hs.2.2⟩

lemma Settles.append {b : Balance} {gs hs : List Glyph} (hgs : Settles allowed b gs)
    (hhs : Settles allowed zero hs) : Settles allowed b (gs ++ hs) := by
  induction gs generalizing b with
  | nil =>
    obtain rfl : b = zero := hgs
    exact hhs
  | cons g gs ih => exact ⟨hgs.1, hgs.2.1, ih hgs.2.2⟩

lemma Settles.not_dangling {b : Balance} {gs : List Glyph} (h : Settles allowed b gs) :
    Glyph.dangling ∉ gs := by
  induction gs generalizing b with
  | nil => simp
  | cons g gs ih =>
    rw [List.mem_cons, not_or]
    exact ⟨Ne.symm h.1, ih h.2.2⟩

lemma Nests.keeps {b : Balance} {g : Glyph} (h : b.Nests g) : b.Keeps g := by
  intro hg
  have hopen : 0 < b.round ∨ 0 < b.curly := h.2.2 hg
  simp [isEven]
  omega

lemma Nests.opens {b : Balance} {g : Glyph} (h : b.Nests g) : b.Opens g := ⟨h.1, h.2.1⟩

/-- The balance with one more parenthesis open. -/
def enclosed (b : Balance) : Balance := { b with round := b.round + 1 }

lemma step_enclosed (b : Balance) (g : Glyph) : b.enclosed.step g = (b.step g).enclosed := by
  unfold step
  split <;> simp_all [enclosed]

/-- Between parentheses a comma may stand anywhere. -/
lemma Settles.enclose {b : Balance} {gs : List Glyph} (hb : 0 ≤ b.round)
    (h : Settles Opens b gs) : Settles Nests b.enclosed (gs ++ [.plain ')']) := by
  induction gs generalizing b with
  | nil =>
    obtain rfl : b = zero := h
    simp [Settles, Nests, step, enclosed, zero]
  | cons g gs ih =>
    obtain ⟨hdangling, hopens, hrest⟩ := h
    refine ⟨hdangling, ⟨?_, ?_, ?_⟩, ?_⟩
    · rw [step_enclosed]
      have := hopens.1
      simp only [enclosed]
      omega
    · rw [step_enclosed]
      exact hopens.2
    · intro _
      left
      simp only [enclosed]
      omega
    · rw [step_enclosed]
      exact ih hopens.1 hrest

lemma Settles.parenthesize {gs : List Glyph} (h : Settles Opens zero gs) :
    Settles Nests zero (.plain '(' :: (gs ++ [.plain ')'])) := by
  refine ⟨by simp, by simp [Nests, step, zero], ?_⟩
  exact Settles.enclose (b := zero) (by simp [zero]) h

/-- Characters without a meaning for the balance are allowed everywhere. -/
lemma settles_map_plain {cs : List Char}
    (h : ∀ c ∈ cs, c ∉ ['(', ')', '\x7b', '\x7d', ',']) :
    Settles Nests zero (cs.map .plain) := by
  induction cs with
  | nil => rfl
  | cons c cs ih =>
    have hc := h c (by simp)
    simp only [List.mem_cons, List.not_mem_nil, or_false, not_or] at hc
    have hstep : zero.step (.plain c) = zero := by
      unfold step
      split <;> simp_all
    refine ⟨by simp, ?_, ?_⟩
    · rw [Nests, hstep]
      simp [zero, hc]
    · rw [hstep]
      exact ih fun d hd => h d (by simp [hd])

end Balance

open Balance

lemma not_special_of_isBlank {c : Char} (hc : Text.isBlank c) :
    c ≠ '\\' ∧ c ∉ ['(', ')', '\x7b', '\x7d', ','] := by
  have hspecial : ['\\', '(', ')', '\x7b', '\x7d', ','].all (!Text.isBlank ·) := by decide
  have hmem : c ∉ ['\\', '(', ')', '\x7b', '\x7d', ','] := by
    intro h
    have hblank := List.all_eq_true.mp hspecial c h
    simp [hc] at hblank
  constructor
  · rintro rfl
    exact hmem (by simp)
  · intro h
    exact hmem (List.mem_cons_of_mem _ h)

/-- Blanks even out. -/
lemma settles_blanks {cs : List Char} (h : ∀ c ∈ cs, Text.isBlank c) :
    Settles Nests zero (Glyph.ofChars cs) := by
  rw [Glyph.ofChars_eq_map]
  · exact settles_map_plain fun c hc => (not_special_of_isBlank (h c hc)).2
  · intro hmem
    exact (not_special_of_isBlank (h _ hmem)).1 rfl

/-- Blanks around a text that evens out do not matter. -/
lemma Balance.Settles.pad {allowed : Balance → Glyph → Prop}
    (hnests : ∀ b g, Nests b g → allowed b g) {l r cs : List Char}
    (hl : ∀ c ∈ l, Text.isBlank c) (hr : ∀ c ∈ r, Text.isBlank c)
    (h : Settles allowed zero (Glyph.ofChars cs)) :
    Settles allowed zero (Glyph.ofChars (l ++ cs ++ r)) := by
  have hleft := (settles_blanks hl).mono hnests
  have hboth : Settles allowed zero (Glyph.ofChars (l ++ cs)) := by
    rw [Glyph.ofChars_append hleft.not_dangling]
    exact hleft.append h
  rw [Glyph.ofChars_append hboth.not_dangling]
  exact hboth.append ((settles_blanks hr).mono hnests)

/-! ### Cutting -/

namespace Splitting

/-- The segments are written out and stripped, and those without characters are left out. -/
lemma segments_eq_filter (decode : Glyph → List Char) (s : String) :
    segments decode s =
      ((cut zero (Glyph.ofString s)).map fun gs =>
        Text.strip (String.ofList (gs.flatMap decode))).filter (· ≠ "") := by
  rw [segments, List.filterMap_map, ← List.filterMap_eq_filter, List.filterMap_map]
  apply List.filterMap_congr
  intro gs _
  by_cases h : Text.stripChars (gs.flatMap decode) = []
  · simp [Option.guard, Text.strip, h]
  · simp [Option.guard, Text.strip, h]

lemma cut_cons_comma (gs : List Glyph) : cut zero (.plain ',' :: gs) = [] :: cut zero gs := by
  simp [cut, isEven, zero]

/-- A text that keeps its commas ends up in front of the first segment of what follows. -/
lemma cut_append {b : Balance} {gs tail segment : List Glyph} {segments : List (List Glyph)}
    (h : Settles Keeps b gs) (htail : cut zero tail = segment :: segments) :
    cut b (gs ++ tail) = (gs ++ segment) :: segments := by
  induction gs generalizing b with
  | nil =>
    obtain rfl : b = zero := h
    exact htail
  | cons g gs ih =>
    obtain ⟨-, hkeeps, hrest⟩ := h
    have hcomma : ¬ (g = .plain ',' ∧ b.isEven = true) := by
      rintro ⟨hg, heven⟩
      rw [hkeeps hg] at heven
      exact Bool.false_ne_true heven
    rw [List.cons_append, cut, if_neg (by simpa using hcomma), ih hrest]
    rfl

/-- The segments of texts that were joined by commas are these texts. -/
lemma cut_intercalate {gss : List (List Glyph)} (hne : gss ≠ [])
    (h : ∀ gs ∈ gss, Settles Keeps zero gs) :
    cut zero ([.plain ','].intercalate gss) = gss := by
  induction gss with
  | nil => exact absurd rfl hne
  | cons gs rest ih =>
    cases rest with
    | nil =>
      have hnil : cut zero [] = [[]] := rfl
      have hgs := cut_append (h gs (by simp)) hnil
      rw [List.append_nil] at hgs
      rw [List.intercalate_singleton, hgs]
    | cons hs rest =>
      have hrest : cut zero ([.plain ','].intercalate (hs :: rest)) = hs :: rest :=
        ih (by simp) fun ks hks => h ks (by simp [hks])
      have htail := cut_cons_comma ([.plain ','].intercalate (hs :: rest))
      rw [List.intercalate_cons_cons, List.append_assoc, List.singleton_append]
      rw [cut_append (h gs (by simp)) htail, hrest, List.append_nil]

end Splitting

/-- Joining can be done before or after the texts are read. -/
lemma Glyph.ofChars_intercalate {css : List (List Char)} (h : ∀ cs ∈ css, dangling ∉ ofChars cs) :
    ofChars ([','].intercalate css) = [plain ','].intercalate (css.map ofChars) := by
  induction css with
  | nil => rfl
  | cons cs rest ih =>
    cases rest with
    | nil => simp
    | cons ds rest =>
      have hrest := ih fun es hes => h es (by simp [hes])
      rw [List.intercalate_cons_cons, List.append_assoc, List.singleton_append,
        ofChars_append (h cs (by simp)), ofChars_cons (by decide), hrest]
      simp only [List.map_cons]
      rw [List.intercalate_cons_cons, List.append_assoc, List.singleton_append]

/-- A joined list of texts as a list of characters. -/
lemma intercalate_eq_ofList (ss : List String) :
    ",".intercalate ss = String.ofList ([','].intercalate (ss.map String.toList)) := by
  rw [String.ext_iff]
  simp

/-- Joined texts are cut where they were joined. -/
lemma Splitting.cut_ofString_intercalate {css : List (List Char)} (hne : css ≠ [])
    (h : ∀ cs ∈ css, Settles Keeps zero (Glyph.ofChars cs)) :
    cut zero (Glyph.ofString (String.ofList ([','].intercalate css))) = css.map Glyph.ofChars := by
  rw [Glyph.ofString, String.toList_ofList,
    Glyph.ofChars_intercalate fun cs hcs => (h cs hcs).not_dangling]
  apply cut_intercalate
  · simpa using hne
  · intro gs hgs
    obtain ⟨cs, hcs, rfl⟩ := List.mem_map.mp hgs
    exact h cs hcs

/-- The segments of joined texts are what these texts decode to, without the blanks around it. -/
lemma Splitting.segments_intercalate (decode : Glyph → List Char) {css : List (List Char)}
    (hne : css ≠ [])
    (h : ∀ cs ∈ css, Settles Keeps zero (Glyph.ofChars cs) ∧
      Text.stripChars ((Glyph.ofChars cs).flatMap decode) ≠ []) :
    segments decode (String.ofList ([','].intercalate css)) =
      css.map fun cs => String.ofList (Text.stripChars ((Glyph.ofChars cs).flatMap decode)) := by
  rw [segments, cut_ofString_intercalate hne fun cs hcs => (h cs hcs).1, List.map_map,
    List.filterMap_map, ← List.filterMap_eq_map]
  apply List.filterMap_congr
  intro cs hcs
  simp [(h cs hcs).2]

/-- The arguments of joined texts are these texts without the blanks around them. -/
lemma splitArguments_intercalate {css : List (List Char)} (hne : css ≠ [])
    (h : ∀ cs ∈ css, Settles Keeps zero (Glyph.ofChars cs) ∧ Text.stripChars cs ≠ []) :
    splitArguments (String.ofList ([','].intercalate css)) =
      css.map fun cs => String.ofList (Text.stripChars cs) := by
  rw [splitArguments, Splitting.segments_intercalate Glyph.chars hne (by simpa using h)]
  simp

/-! ### What the segments hold -/

namespace Splitting

/-- A segment is empty, one of those behind the first glyph, or the first of these with this glyph
in front. -/
lemma mem_cut_cons {b : Balance} {g : Glyph} {gs segment : List Glyph}
    (h : segment ∈ cut b (g :: gs)) :
    segment = [] ∨ (∃ b', segment ∈ cut b' gs) ∨
      ∃ tail ∈ cut (b.step g) gs, segment = g :: tail := by
  rw [cut] at h
  split_ifs at h with hcomma
  · rcases List.mem_cons.mp h with rfl | hmem
    · exact .inl rfl
    · exact .inr (.inl ⟨b, hmem⟩)
  · obtain ⟨first, rest, hcut⟩ := List.exists_cons_of_ne_nil (cut_ne_nil (b.step g) gs)
    rw [hcut] at h
    rcases List.mem_cons.mp h with rfl | hmem
    · exact .inr (.inr ⟨first, by rw [hcut]; simp, rfl⟩)
    · exact .inr (.inl ⟨b.step g, by rw [hcut]; simp [hmem]⟩)

/-- The segments hold nothing but what was cut. -/
lemma mem_of_mem_cut {b : Balance} {gs segment : List Glyph} {g : Glyph}
    (hsegment : segment ∈ cut b gs) (hg : g ∈ segment) : g ∈ gs := by
  induction gs generalizing b segment with
  | nil =>
    simp only [cut, List.mem_singleton] at hsegment
    simp [hsegment] at hg
  | cons h gs ih =>
    rcases mem_cut_cons hsegment with rfl | ⟨b', hmem⟩ | ⟨tail, htail, rfl⟩
    · simp at hg
    · exact List.mem_cons_of_mem _ (ih hmem hg)
    · rcases List.mem_cons.mp hg with rfl | hfirst
      · simp
      · exact List.mem_cons_of_mem _ (ih htail hfirst)

/-- A segment that is written and read again is the same. -/
lemma ofChars_toChars_of_mem_cut {b : Balance} {cs : List Char} {segment : List Glyph}
    (h : segment ∈ cut b (Glyph.ofChars cs)) :
    Glyph.ofChars (Glyph.toChars segment) = segment := by
  induction cs using Glyph.ofChars_induction generalizing b segment with
  | nil =>
    obtain rfl : segment = [] := by simpa [cut] using h
    rfl
  | dangling =>
    obtain rfl : segment = [.dangling] := by simpa [Glyph.ofChars, cut] using h
    rfl
  | escaped d rest ih =>
    rw [Glyph.ofChars_backslash] at h
    rcases mem_cut_cons h with rfl | ⟨b', hmem⟩ | ⟨tail, htail, rfl⟩
    · rfl
    · exact ih hmem
    · simp [Glyph.chars, Glyph.ofChars_backslash, ih htail]
  | plain c rest hc ih =>
    rw [Glyph.ofChars_cons hc] at h
    rcases mem_cut_cons h with rfl | ⟨b', hmem⟩ | ⟨tail, htail, rfl⟩
    · rfl
    · exact ih hmem
    · rw [Glyph.toChars_cons, Glyph.chars, List.singleton_append, Glyph.ofChars_cons hc, ih htail]

end Splitting

/-- On a text without backslashes both ways of splitting agree. -/
lemma splitSpecs_eq_splitArguments {s : String} (h : '\\' ∉ s.toList) :
    splitSpecs s = splitArguments s := by
  have hplain : ∀ segment ∈ Splitting.cut .zero (Glyph.ofString s),
      segment.flatMap (Glyph.decode specEscapes) = segment.flatMap Glyph.chars := by
    intro segment hsegment
    apply List.flatMap_congr
    intro g hg
    have hmem := Splitting.mem_of_mem_cut hsegment hg
    rw [Glyph.ofString, Glyph.ofChars_eq_map h] at hmem
    obtain ⟨c, -, rfl⟩ := List.mem_map.mp hmem
    rfl
  have hsegments : (Splitting.cut .zero (Glyph.ofString s)).map
        (fun gs => Text.stripChars (gs.flatMap (Glyph.decode specEscapes))) =
      (Splitting.cut .zero (Glyph.ofString s)).map
        (fun gs => Text.stripChars (gs.flatMap Glyph.chars)) := by
    apply List.map_congr_left
    intro segment hsegment
    rw [hplain segment hsegment]
  rw [splitSpecs, splitArguments, Splitting.segments, Splitting.segments, hsegments]

end ValueSpec
