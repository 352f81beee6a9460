import ValueSpec.Proofs.Splitting

/-!
# Decoding segments

A list of specs is cut at the same commas as a text of arguments. Its segments are also decoded: the
special characters lose a backslash before them. Arguments are stripped as they are written and
specs after they have been decoded, but that makes no difference. A blank can be escaped, and then
what is left of it when it is stripped is its backslash, before decoding as well as after it.
-/

namespace ValueSpec

/-! ### Decoding texts -/

/-- Read from left to right, a special character after a backslash loses the backslash. Any other
character keeps it, and a backslash at the end stays. -/
def unescapeChars (special : List Char) : List Char → List Char
  | [] => []
  | [c] => [c]
  | c :: d :: rest =>
    if c = '\\' then
      if d ∈ special then d :: unescapeChars special rest else c :: d :: unescapeChars special rest
    else c :: unescapeChars special (d :: rest)

/-- A text in which special characters are decoded by this rule. -/
def unescape (special : List Char) (s : String) : String :=
  String.ofList (unescapeChars special s.toList)

section

variable {special : List Char}

lemma unescapeChars_cons {c : Char} (hc : c ≠ '\\') (cs : List Char) :
    unescapeChars special (c :: cs) = c :: unescapeChars special cs := by
  cases cs with
  | nil => rfl
  | cons d rest => simp [unescapeChars, hc]

/-- Before the first backslash nothing changes. -/
lemma unescapeChars_append {l : List Char} (hl : '\\' ∉ l) (cs : List Char) :
    unescapeChars special (l ++ cs) = l ++ unescapeChars special cs := by
  induction l with
  | nil => rfl
  | cons c l ih =>
    simp only [List.mem_cons, not_or] at hl
    rw [List.cons_append, unescapeChars_cons (Ne.symm hl.1), ih hl.2, List.cons_append]

lemma unescapeChars_eq_self {cs : List Char} (h : '\\' ∉ cs) : unescapeChars special cs = cs := by
  have happend : unescapeChars special (cs ++ []) = cs ++ [] := unescapeChars_append h []
  rwa [List.append_nil] at happend

/-- Ordinary characters at the end stay, though the first of them may be escaped. -/
lemma unescapeChars_append_ordinary {r : List Char} (hr : ∀ c ∈ r, c ≠ '\\' ∧ c ∉ special)
    (cs : List Char) : unescapeChars special (cs ++ r) = unescapeChars special cs ++ r := by
  have hplain : '\\' ∉ r := fun hmem => (hr _ hmem).1 rfl
  induction cs using unescapeChars.induct special with
  | case1 => exact unescapeChars_eq_self hplain
  | case2 c =>
    by_cases hc : c = '\\'
    · cases r with
      | nil => rfl
      | cons d r =>
        have hd : d ∉ special := (hr d (by simp)).2
        have hrest : unescapeChars special r = r :=
          unescapeChars_eq_self fun hmem => hplain (List.mem_cons_of_mem _ hmem)
        simp [unescapeChars, hc, hd, hrest]
    · rw [List.singleton_append, unescapeChars_cons hc, unescapeChars_eq_self hplain]
      rfl
  | case3 d rest hd ih => simp [unescapeChars, hd, ih]
  | case4 d rest hd ih => simp [unescapeChars, hd, ih]
  | case5 c d rest hc ih =>
    rw [unescapeChars_cons hc, List.cons_append, unescapeChars_cons hc, ih, List.cons_append]

lemma head?_unescapeChars {cs : List Char} {c : Char} (h : c ∈ (unescapeChars special cs).head?) :
    c ∈ special ∨ c ∈ cs.head? := by
  cases cs with
  | nil => exact .inr h
  | cons first cs =>
    by_cases hfirst : first = '\\'
    · cases cs with
      | nil => exact .inr h
      | cons d rest =>
        by_cases hd : d ∈ special
        · left
          obtain rfl : d = c := by simpa [unescapeChars, hfirst, hd] using h
          exact hd
        · right
          simpa [unescapeChars, hfirst, hd] using h
    · right
      simpa [unescapeChars_cons hfirst] using h

lemma getLast?_unescapeChars (cs : List Char) :
    (unescapeChars special cs).getLast? = cs.getLast? := by
  induction cs using unescapeChars.induct special with
  | case1 => rfl
  | case2 c => rfl
  | case3 d rest hd ih => simp [unescapeChars, hd, List.getLast?_cons, ih]
  | case4 d rest hd ih => simp [unescapeChars, hd, List.getLast?_cons, ih]
  | case5 c d rest hc ih =>
    rw [unescapeChars_cons hc, List.getLast?_cons, ih, ← List.getLast?_cons]

lemma unescapeChars_eq_nil_iff {cs : List Char} : unescapeChars special cs = [] ↔ cs = [] := by
  rw [← List.getLast?_eq_none_iff, getLast?_unescapeChars, List.getLast?_eq_none_iff]

lemma unescape_eq_empty_iff {s : String} : unescape special s = "" ↔ s = "" := by
  simp [unescape, unescapeChars_eq_nil_iff]

/-- Blanks can be taken off before or after decoding. -/
lemma stripChars_unescapeChars (hspecial : ∀ c ∈ special, Text.isBlank c = false) (cs : List Char) :
    Text.stripChars (unescapeChars special cs) = unescapeChars special (Text.stripChars cs) := by
  obtain ⟨l, r, hcs, hl, hr⟩ := Text.exists_pad cs
  have hleft : '\\' ∉ l := fun hmem => (not_special_of_isBlank (hl _ hmem)).1 rfl
  have hright : ∀ c ∈ r, c ≠ '\\' ∧ c ∉ special := by
    intro c hc
    refine ⟨(not_special_of_isBlank (hr c hc)).1, fun hmem => ?_⟩
    have hblank := hr c hc
    simp [hspecial c hmem] at hblank
  have hdecoded : unescapeChars special cs =
      l ++ unescapeChars special (Text.stripChars cs) ++ r := by
    conv_lhs => rw [hcs]
    rw [unescapeChars_append_ordinary hright, unescapeChars_append hleft]
  rw [hdecoded, Text.stripChars_pad hl hr]
  apply Text.stripChars_eq_self
  · intro c hc
    rcases head?_unescapeChars hc with hmem | hhead
    · exact hspecial c hmem
    · exact Text.head?_stripChars_not_blank c hhead
  · intro c hc
    rw [getLast?_unescapeChars] at hc
    exact Text.getLast?_stripChars_not_blank c hc

/-- Decoding takes characters away only. -/
lemma Glyph.decode_subset_chars (special : List Char) (g : Glyph) : g.decode special ⊆ g.chars := by
  cases g with
  | plain c => simp [decode, chars]
  | escaped c =>
    rw [decode, chars]
    split_ifs <;> simp
  | dangling => simp [decode, chars]

/-- The glyphs of a text are decoded one by one. -/
lemma Glyph.flatMap_decode_ofChars (cs : List Char) :
    (ofChars cs).flatMap (decode special) = unescapeChars special cs := by
  induction cs using unescapeChars.induct special with
  | case1 => rfl
  | case2 c => by_cases hc : c = '\\' <;> simp [ofChars, unescapeChars, decode, hc]
  | case3 d rest hd ih => simp [ofChars, unescapeChars, decode, hd, ih]
  | case4 d rest hd ih => simp [ofChars, unescapeChars, decode, hd, ih]
  | case5 c d rest hc ih =>
    rw [unescapeChars_cons hc, ofChars_cons hc, List.flatMap_cons, ih]
    rfl

end

/-! ### Escaping texts -/

/-- A character as it is written where special characters have a backslash before them. -/
def escapeCharIn (special : List Char) (c : Char) : List Char :=
  if c ∈ special then ['\\', c] else [c]

/-- A text with a backslash before each of its special characters. -/
def escapeIn (special : List Char) (s : String) : String :=
  String.ofList (s.toList.flatMap (escapeCharIn special))

namespace Glyph

variable {special : List Char}

/-- The glyph that a character of an escaped text is read as. -/
def ofCharIn (special : List Char) (c : Char) : Glyph :=
  if c ∈ special then escaped c else plain c

/-- Where backslashes are special every character of an escaped text is a glyph of its own. -/
lemma ofChars_escapeIn (h : '\\' ∈ special) (cs : List Char) :
    ofChars (cs.flatMap (escapeCharIn special)) = cs.map (ofCharIn special) := by
  induction cs with
  | nil => rfl
  | cons c cs ih =>
    rw [List.flatMap_cons, List.map_cons, ← ih, escapeCharIn, ofCharIn]
    split_ifs with hc
    · simp [ofChars]
    · apply ofChars_cons
      rintro rfl
      exact hc h

/-- Decoding takes off what escaping has put on; it may know more escapes. -/
lemma flatMap_decode_ofCharIn {decoded : List Char} (h : ∀ c ∈ special, c ∈ decoded)
    (cs : List Char) : (cs.map (ofCharIn special)).flatMap (decode decoded) = cs := by
  have hdecode : ∀ c, (ofCharIn special c).decode decoded = [c] := by
    intro c
    unfold ofCharIn
    split_ifs with hc
    · simp [decode, h c hc]
    · rfl
  simp [List.flatMap_map, hdecode]

lemma ofCharIn_ne_dangling (c : Char) : ofCharIn special c ≠ dangling := by
  unfold ofCharIn
  split_ifs <;> simp

/-- In an escaped text no special character has its meaning. -/
lemma ofCharIn_ne_plain {d : Char} (hd : d ∈ special) (c : Char) :
    ofCharIn special c ≠ plain d := by
  unfold ofCharIn
  split_ifs with hc
  · simp
  · simp only [ne_eq, plain.injEq]
    rintro rfl
    exact hc hd

end Glyph

/-! ### Decoding segments -/

/-- Decoding makes no text empty that was not. -/
lemma filter_map_unescape {special : List Char} (ss : List String) :
    (ss.map (unescape special)).filter (· ≠ "") = (ss.filter (· ≠ "")).map (unescape special) := by
  rw [List.filter_map]
  congr 1
  apply List.filter_congr
  intro s _
  simp [unescape_eq_empty_iff]

/-- Segments that are decoded before they are stripped are the stripped ones, decoded. -/
lemma Splitting.segments_decode {special : List Char}
    (hspecial : ∀ c ∈ special, Text.isBlank c = false) (s : String) :
    segments (Glyph.decode special) s = (segments Glyph.chars s).map (unescape special) := by
  have hsegment : ∀ gs ∈ cut .zero (Glyph.ofString s),
      Text.strip (String.ofList (gs.flatMap (Glyph.decode special))) =
        unescape special (Text.strip (String.ofList (gs.flatMap Glyph.chars))) := by
    intro gs hgs
    have hread : Glyph.ofChars (gs.flatMap Glyph.chars) = gs := ofChars_toChars_of_mem_cut hgs
    conv_lhs => rw [← hread, Glyph.flatMap_decode_ofChars]
    rw [Text.strip, String.toList_ofList, stripChars_unescapeChars hspecial, unescape,
      Text.toList_strip, String.toList_ofList]
  rw [segments_eq_filter, segments_eq_filter, ← filter_map_unescape, List.map_map,
    List.map_congr_left hsegment]
  rfl

/-- The specs in a text are the arguments in it, in which commas, colons and backslashes lose a
backslash before them. -/
theorem splitSpecs_eq_map_unescape (t : String) :
    splitSpecs t = (splitArguments t).map (unescape [',', ':', '\\']) ∧
      ('\\' ∉ t.toList → splitSpecs t = splitArguments t) := by
  constructor
  · apply Splitting.segments_decode
    simp only [specEscapes, List.forall_mem_cons]
    exact ⟨by decide, by decide, by decide, by simp⟩
  · exact splitSpecs_eq_splitArguments

/-- Segments with an escaped blank at the end, with a backslash that is escaped before blanks, and
with a backslash at the end of the text; and a text without any backslash. -/
theorem splitSpecs_eq_map_unescape_blank :
    splitArguments "a\\ , b\\\\ ,\\,\\d\\" = ["a\\", "b\\\\", "\\,\\d\\"] ∧
      splitSpecs "a\\ , b\\\\ ,\\,\\d\\" = ["a\\", "b\\", ",\\d\\"] ∧
      splitSpecs "a, f(b,c)" = splitArguments "a, f(b,c)" := by
  have hargs : splitArguments "a\\ , b\\\\ ,\\,\\d\\" = ["a\\", "b\\\\", "\\,\\d\\"] := by decide
  refine ⟨hargs, ?_, (splitSpecs_eq_map_unescape "a, f(b,c)").2 (by decide)⟩
  rw [(splitSpecs_eq_map_unescape _).1, hargs]
  decide

end ValueSpec
