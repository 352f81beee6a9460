import Mathlib.Data.List.Flatten
import ValueSpec.Proofs.Calls
import ValueSpec.Proofs.Pattern.Pairs

/-!
# What is taken out of a spec

Arguments are what is left of a spec without blanks, separators and some of its backslashes, and
patterns are what is left of arguments. So no parenthesis is in a pattern that is not in the spec.
-/

namespace ValueSpec

lemma Text.stripChars_sublist (cs : List Char) : (stripChars cs).Sublist cs := by
  obtain ⟨l, r, hcs, -, -⟩ := exists_pad cs
  have hright := List.sublist_append_left (l ++ stripChars cs) r
  rw [← hcs] at hright
  exact (List.sublist_append_right l _).trans hright

/-! ### Glyphs -/

lemma Glyph.decode_sublist (decoded : List Char) (g : Glyph) :
    (g.decode decoded).Sublist g.chars := by
  cases g with
  | escaped c =>
    rw [decode]
    split_ifs
    · exact List.sublist_cons_self _ _
    · exact List.Sublist.refl _
  | _ => exact List.Sublist.refl _

lemma Glyph.flatMap_decode_sublist (decoded : List Char) (gs : List Glyph) :
    (gs.flatMap (decode decoded)).Sublist (toChars gs) :=
  .flatMap_right gs fun g _ => g.decode_sublist decoded

lemma unescapeValue_sublist (s : String) : (unescapeValue s).toList.Sublist s.toList := by
  have hdecode := Glyph.flatMap_decode_sublist valueEscapes (Glyph.ofString s)
  rw [Glyph.ofString, Glyph.toChars_ofChars] at hdecode
  rwa [unescapeValue, String.toList_ofList]

/-! ### Arguments -/

lemma Splitting.sublist_of_mem_cut {b : Balance} {gs segment : List Glyph}
    (h : segment ∈ cut b gs) : segment.Sublist gs := by
  induction gs generalizing b segment with
  | nil =>
    obtain rfl : segment = [] := by simpa [cut] using h
    exact List.Sublist.refl _
  | cons g gs ih =>
    rw [cut] at h
    split_ifs at h
    · rcases List.mem_cons.mp h with rfl | h
      · exact List.nil_sublist _
      · exact (ih h).cons _
    · obtain ⟨first, rest, hcut⟩ := List.exists_cons_of_ne_nil (cut_ne_nil (b.step g) gs)
      rw [hcut] at h
      rcases List.mem_cons.mp h with rfl | h
      · exact (ih (hcut ▸ List.mem_cons_self)).cons_cons _
      · exact (ih (hcut ▸ List.mem_cons_of_mem _ h)).cons _

lemma sublist_of_mem_splitArguments {s arg : String} (h : arg ∈ splitArguments s) :
    arg.toList.Sublist s.toList := by
  rw [splitArguments, Splitting.segments, List.mem_filterMap] at h
  obtain ⟨cs, hcs, hsome⟩ := h
  obtain ⟨segment, hsegment, rfl⟩ := List.mem_map.mp hcs
  split_ifs at hsome
  obtain rfl := Option.some.inj hsome
  rw [String.toList_ofList]
  have hchars : (Glyph.toChars segment).Sublist (Glyph.toChars (Glyph.ofString s)) :=
    (Splitting.sublist_of_mem_cut hsegment).flatMap _
  rw [Glyph.ofString, Glyph.toChars_ofChars] at hchars
  exact (Text.stripChars_sublist _).trans hchars

lemma ArgShape.sublist_of_mem_split {shape : ArgShape} {raw arg : String}
    (h : arg ∈ shape.split raw) : arg.toList.Sublist raw.toList := by
  cases shape with
  | nested => exact sublist_of_mem_splitArguments h
  | nestedOne =>
    rw [split] at h
    split_ifs at h
    · cases h
    · obtain rfl := List.mem_singleton.mp h
      rw [Text.toList_strip]
      exact Text.stripChars_sublist _
  | single =>
    rw [split] at h
    split_ifs at h
    · cases h
    · obtain rfl := List.mem_singleton.mp h
      exact List.Sublist.refl _
  | list =>
    obtain ⟨segment, hsegment, rfl⟩ := List.mem_map.mp h
    exact (unescapeValue_sublist segment).trans (sublist_of_mem_splitArguments hsegment)

/-- The arguments of a call are taken out of it. -/
lemma Call.sublist_of_mem_args {shapeOf : String → ArgShape} {text : String} {call : Call}
    (h : parse shapeOf text = .ok call) {arg : String} (harg : arg ∈ call.args) :
    arg.toList.Sublist text.toList := by
  have hcs : Text.strip text = String.ofList (Text.stripChars text.toList) := rfl
  by_cases hopen : ∀ i, ¬ Unescaped '(' (Text.stripChars text.toList) i
  · obtain ⟨-, -, rfl⟩ := (parse_not_opened_eq_ok_iff shapeOf hcs hopen).mp h
    cases harg
  · obtain ⟨i, hi⟩ := exists_firstUnescaped hopen
    have hcall := (parse_opened_eq_ok_iff shapeOf hcs hi).mp h
    rw [hcall.args] at harg
    have hraw := ArgShape.sublist_of_mem_split harg
    rw [hcall.rawArgs, String.toList_ofList] at hraw
    calc arg.toList
      List.Sublist _ ((Text.stripChars text.toList).drop (i + 1)).dropLast := hraw
      List.Sublist _ _ := (List.dropLast_sublist _).trans (List.drop_sublist _ _)
      List.Sublist _ _ := Text.stripChars_sublist _

/-! ### Patterns -/

namespace PatternArgument

lemma sublist_of_mem_segments {gs segment : List Glyph} (h : segment ∈ segments gs) :
    segment.Sublist gs := by
  induction gs generalizing segment with
  | nil =>
    obtain rfl : segment = [] := by simpa [segments] using h
    exact List.Sublist.refl _
  | cons g gs ih =>
    by_cases hg : g = .plain ','
    · rw [hg, segments_cons_comma] at h
      rcases List.mem_cons.mp h with rfl | h
      · exact List.nil_sublist _
      · exact (ih h).cons _
    · rw [segments_cons hg] at h
      obtain ⟨first, rest, hsegments⟩ := List.exists_cons_of_ne_nil (segments_ne_nil gs)
      rw [hsegments, List.modifyHead_cons] at h
      rcases List.mem_cons.mp h with rfl | h
      · exact (ih (hsegments ▸ List.mem_cons_self)).cons_cons _
      · exact (ih (hsegments ▸ List.mem_cons_of_mem _ h)).cons _

lemma sublist_of_readAs {segment : List Glyph} {p : String × String} (h : ReadAs segment p) :
    p.2.toList.Sublist (Glyph.toChars segment) := by
  obtain ⟨key, value, hwritten, -, -, rfl⟩ := h
  have hvalue : value.Sublist (written segment) := by
    rw [hwritten]
    exact (List.sublist_cons_self _ _).trans (List.sublist_append_right _ _)
  rw [String.toList_ofList]
  exact ((Text.stripChars_sublist _).trans hvalue).trans (Glyph.flatMap_decode_sublist _ _)

lemma exists_inner {text : String} {p : PatternArgument} (h : parseBraced text = .ok p) :
    ∃ inner, Text.stripChars text.toList = '\x7b' :: (inner ++ ['\x7d']) := by
  unfold parseBraced at h
  dsimp only at h
  generalize Text.stripChars text.toList = cs at h
  split_ifs at h with hbraced
  simp only [Bool.or_eq_true, decide_eq_true_eq, not_or, ne_eq, not_not, not_lt] at hbraced
  obtain ⟨⟨hopen, hclose⟩, hlength⟩ := hbraced
  cases cs with
  | nil => simp at hopen
  | cons c rest =>
    have hne : rest ≠ [] := by
      rintro rfl
      simp at hlength
    obtain rfl : c = '\x7b' := by simpa using hopen
    rw [List.getLast?_cons_of_ne_nil hne] at hclose
    obtain ⟨inner, rfl⟩ := List.getLast?_eq_some_iff.mp hclose
    exact ⟨inner, rfl⟩

lemma exists_readAs {ss : List (List Glyph)} {pairs : List (String × String)}
    (h : List.Forall₂ ReadAs ss pairs) {p : String × String} (hp : p ∈ pairs) :
    ∃ s ∈ ss, ReadAs s p := by
  induction h with
  | nil => cases hp
  | cons hread _ ih =>
    rcases List.mem_cons.mp hp with rfl | hp
    · exact ⟨_, List.mem_cons_self, hread⟩
    · obtain ⟨s, hs, hread⟩ := ih hp
      exact ⟨s, List.mem_cons_of_mem _ hs, hread⟩

lemma sublist_of_parseBraced {text : String} {p : PatternArgument}
    (h : parseBraced text = .ok p) : p.pattern.toList.Sublist text.toList := by
  obtain ⟨inner, htext⟩ := exists_inner h
  obtain ⟨pairs, hpairs, ⟨hpattern, -⟩, -⟩ := (parseBraced_eq_ok_iff htext).mp h
  have hmem : ("pattern", p.pattern) ∈ pairs := by
    obtain ⟨before, after, hpairs, -⟩ := List.lookup_eq_some_iff.mp hpattern
    rw [← List.mem_reverse, hpairs]
    exact List.mem_append_right _ List.mem_cons_self
  obtain ⟨segment, hsegment, hread⟩ := exists_readAs hpairs hmem
  have hinner : (Glyph.toChars segment).Sublist (Glyph.toChars (Glyph.ofChars inner)) :=
    (sublist_of_mem_segments (mem_segments_of_mem_checked hsegment)).flatMap _
  rw [Glyph.toChars_ofChars] at hinner
  have htextInner : inner.Sublist (Text.stripChars text.toList) := by
    rw [htext]
    exact (List.sublist_append_left _ _).trans (List.sublist_cons_self _ _)
  exact ((sublist_of_readAs hread).trans (hinner.trans htextInner)).trans
    (Text.stripChars_sublist _)

/-- The pattern is taken out of the argument. -/
lemma sublist_of_parse {arg : String} {p : PatternArgument} (h : parse arg = .ok p) :
    p.pattern.toList.Sublist arg.toList := by
  unfold parse at h
  dsimp only at h
  split_ifs at h with hbraces hword
  · exact sublist_of_parseBraced h
  · have hrest := List.drop_sublist "pattern:".length arg.toList
    cases hcut : partition? ",desc:".toList (arg.toList.drop "pattern:".length) with
    | none =>
      rw [hcut] at h
      obtain rfl := Except.ok.inj h
      rw [String.toList_ofList]
      exact hrest
    | some parts =>
      obtain ⟨before, after⟩ := parts
      rw [hcut] at h
      obtain rfl := Except.ok.inj h
      have hpieces := (of_partition?_eq_some hcut).1
      rw [hpieces] at hrest
      rw [String.toList_ofList]
      exact ((List.sublist_append_left _ _).trans (List.sublist_append_left _ _)).trans hrest
  · obtain rfl := Except.ok.inj h
    exact List.Sublist.refl _

end PatternArgument

end ValueSpec
