import ValueSpec.Proofs.Pattern.Pairs

/-!
# Notations of patterns

A pattern is written plain, after the word `pattern:`, or between braces, and each notation gives
back what was written in it. A plain pattern must not look like one of the other notations, one
after the word must not hold the mark of a description, and between braces blanks at the ends of
values are lost, while everything else can be escaped.
-/

namespace ValueSpec

namespace PatternArgument

/-! ### Without braces -/

/-- A text that looks like neither of the other notations is a pattern as it is. -/
lemma parse_plain {p : String} (hword : ¬ "pattern:".toList <+: p.toList)
    (hbraces : ¬ (p.toList.head? = some '\x7b' ∧ p.toList.getLast? = some '\x7d')) :
    parse p = .ok ⟨p, p⟩ := by
  unfold parse
  dsimp only
  rw [if_neg (by simpa using hbraces), isPrefixOf_eq_false_iff.mpr hword, if_neg (by simp)]

/-- After the word, the first mark ends the pattern. -/
lemma parse_word {rest : String} {pattern description : List Char}
    (hcut : partition? ",desc:".toList rest.toList = some (pattern, description)) :
    parse ("pattern:" ++ rest) = .ok ⟨String.ofList pattern, String.ofList description⟩ := by
  have hword : ("pattern:" ++ rest).toList = "pattern:".toList ++ rest.toList := by simp
  have hstarts : "pattern:".toList.isPrefixOf ("pattern:".toList ++ rest.toList) = true := by
    rw [List.isPrefixOf_iff_prefix]
    exact List.prefix_append _ _
  have hdrop : ("pattern:".toList ++ rest.toList).drop "pattern:".length = rest.toList := by
    rw [← String.length_toList, List.drop_left]
  unfold parse
  dsimp only
  rw [hword, if_neg (by simp), if_pos hstarts, hdrop, hcut]

lemma parse_described {p : String} (h : ¬ ",desc:".toList <:+: p.toList) (d : String) :
    parse ("pattern:" ++ p ++ ",desc:" ++ d) = .ok ⟨p, d⟩ := by
  have hcut : partition? ",desc:".toList (p ++ (",desc:" ++ d)).toList =
      some (p.toList, d.toList) := by
    have hmark : ',' ∉ "desc:".toList := by decide
    simpa using partition?_append hmark h d.toList
  rw [String.append_assoc, String.append_assoc, parse_word hcut, String.ofList_toList,
    String.ofList_toList]

/-! ### Between braces -/

/-- The glyphs of a pair whose value is escaped. -/
def pairGlyphs (key value : String) : List Glyph :=
  key.toList.map .plain ++ .plain ':' :: value.toList.map (.ofCharIn bracedEscapes)

/-- A pair as it is written between braces. -/
def writePair (key value : String) : String := key ++ ":" ++ escapeIn bracedEscapes value

/-- A text that can be the key of a pair as it is. -/
structure IsKey (key : String) : Prop where
  nonempty : key ≠ ""
  stripped : Text.strip key = key
  backslash : '\\' ∉ key.toList
  comma : ',' ∉ key.toList
  colon : ':' ∉ key.toList

lemma isKey_pattern : IsKey "pattern" :=
  ⟨by decide, by decide, by decide, by decide, by decide⟩

lemma isKey_desc : IsKey "desc" :=
  ⟨by decide, by decide, by decide, by decide, by decide⟩

lemma dangling_not_mem_pairGlyphs (key value : String) : .dangling ∉ pairGlyphs key value := by
  simp [pairGlyphs, Glyph.ofCharIn_ne_dangling]

namespace IsKey

variable {key value : String}

lemma ofChars_writePair (h : IsKey key) :
    Glyph.ofChars (writePair key value).toList = pairGlyphs key value := by
  have hplain : '\\' ∉ key.toList ++ [':'] := by simp [h.backslash]
  have hglyphs := Glyph.ofChars_eq_map hplain
  have hdangling : .dangling ∉ Glyph.ofChars (key.toList ++ [':']) := by simp [hglyphs]
  have htext : (writePair key value).toList =
      key.toList ++ [':'] ++ value.toList.flatMap (escapeCharIn bracedEscapes) := by
    simp [writePair, escapeIn]
  rw [htext, Glyph.ofChars_append hdangling, hglyphs, Glyph.ofChars_escapeIn (by decide)]
  simp [pairGlyphs]

/-- No comma of a pair separates. -/
lemma segments_pairGlyphs (h : IsKey key) :
    segments (pairGlyphs key value) = [pairGlyphs key value] := by
  have hvalue : ∀ c ∈ value.toList, Glyph.ofCharIn bracedEscapes c ≠ .plain ',' :=
    fun c _ => Glyph.ofCharIn_ne_plain (by decide) c
  apply segments_eq_singleton
  simpa [pairGlyphs, h.comma] using hvalue

/-- A pair is read as the key and the value that it was written with. -/
lemma readAs_pairGlyphs (h : IsKey key) (hvalue : Text.strip value = value) :
    ReadAs (pairGlyphs key value) (key, value) := by
  have hdecoded : (value.toList.map (Glyph.ofCharIn bracedEscapes)).flatMap
      (Glyph.decode bracedEscapes) = value.toList :=
    Glyph.flatMap_decode_ofCharIn (fun c hc => hc) value.toList
  have hwritten : written (pairGlyphs key value) = key.toList ++ ':' :: value.toList := by
    simp [written, pairGlyphs, Glyph.decode, hdecoded, List.flatMap_map]
  exact ⟨key.toList, value.toList, hwritten, h.colon, h.nonempty,
    Prod.ext h.stripped.symm hvalue.symm⟩

end IsKey

/-- Two pairs that a comma separates are both checked. -/
lemma checked_writePair {k k' v v' : String} (hk : IsKey k) (hk' : IsKey k') :
    checked (Glyph.ofChars ((writePair k v).toList ++ ',' :: (writePair k' v').toList)) =
      [pairGlyphs k v, pairGlyphs k' v'] := by
  have hdangling : .dangling ∉ Glyph.ofChars (writePair k v).toList := by
    rw [hk.ofChars_writePair]
    exact dangling_not_mem_pairGlyphs k v
  rw [Glyph.ofChars_append hdangling, Glyph.ofChars_cons (by decide), hk.ofChars_writePair,
    hk'.ofChars_writePair, checked, if_neg, segments_append_comma, hk.segments_pairGlyphs,
    hk'.segments_pairGlyphs]
  · rfl
  · simp [dangling_not_mem_pairGlyphs]

section

variable {arg : String} {inner : List Char} (harg : arg.toList = '\x7b' :: (inner ++ ['\x7d']))

include harg

lemma stripChars_braces : Text.stripChars arg.toList = '\x7b' :: (inner ++ ['\x7d']) := by
  rw [harg]
  apply Text.stripChars_eq_self
  · rintro c ⟨⟩
    decide
  · intro c hc
    rw [getLast?_braces] at hc
    obtain rfl := Option.some.inj hc
    decide

/-- An argument between braces is a list of pairs. -/
lemma parse_braces : parse arg = parseBraced arg := by
  unfold parse
  dsimp only
  rw [harg, getLast?_braces, if_pos (by simp)]

end

/-- Two pairs between braces are read as they were written. -/
lemma parse_writePair {k k' v v' p d : String} (hk : IsKey k) (hk' : IsKey k')
    (hv : Text.strip v = v) (hv' : Text.strip v' = v')
    (hp : [(k', v'), (k, v)].lookup "pattern" = some p ∧ p ≠ "")
    (hd : [(k', v'), (k, v)].lookup "desc" = some d ∧ d ≠ "") :
    parse ("\x7b" ++ writePair k v ++ "," ++ writePair k' v' ++ "\x7d") = .ok ⟨p, d⟩ := by
  have harg : ("\x7b" ++ writePair k v ++ "," ++ writePair k' v' ++ "\x7d").toList =
      '\x7b' :: ((writePair k v).toList ++ ',' :: (writePair k' v').toList ++ ['\x7d']) := by simp
  have hread : List.Forall₂ ReadAs [pairGlyphs k v, pairGlyphs k' v'] [(k, v), (k', v')] :=
    .cons (hk.readAs_pairGlyphs hv) (.cons (hk'.readAs_pairGlyphs hv') .nil)
  rw [parse_braces harg, parseBraced_eq_ok_iff (stripChars_braces harg), checked_writePair hk hk']
  exact ⟨_, hread, hp, hd⟩

/-! ### Patterns without a notation -/

/-- A value that is read has no blanks at its ends. -/
lemma ReadAs.strip_eq {segment : List Glyph} {p : String × String} (h : ReadAs segment p) :
    Text.strip p.2 = p.2 := by
  obtain ⟨key, value, -, -, -, rfl⟩ := h
  simp [Text.strip]

lemma exists_eq_braces {cs : List Char} (hhead : cs.head? = some '\x7b')
    (hlast : cs.getLast? = some '\x7d') : ∃ inner, cs = '\x7b' :: (inner ++ ['\x7d']) := by
  obtain ⟨rest, rfl⟩ := List.head?_eq_some_iff.mp hhead
  obtain ⟨front, hfront⟩ := List.getLast?_eq_some_iff.mp hlast
  cases front with
  | nil => simp at hfront
  | cons c inner =>
    obtain ⟨rfl, rfl⟩ : '\x7b' = c ∧ rest = inner ++ ['\x7d'] := by simpa using hfront
    exact ⟨inner, rfl⟩

/-- A pattern that is read between braces has no blanks at its ends. -/
lemma strip_eq_of_parseBraced {arg p d : String} {inner : List Char}
    (harg : arg.toList = '\x7b' :: (inner ++ ['\x7d'])) (h : parseBraced arg = .ok ⟨p, d⟩) :
    Text.strip p = p := by
  obtain ⟨pairs, hpairs, ⟨hp, -⟩, -⟩ := (parseBraced_eq_ok_iff (stripChars_braces harg)).mp h
  have hstrip : ∀ q ∈ pairs, Text.strip q.2 = q.2 :=
    ((List.forall₂_and_left _ _).mp (hpairs.flip.imp fun _ _ h => ⟨ReadAs.strip_eq h, h⟩)).1
  obtain ⟨before, after, hsplit, -⟩ := List.lookup_eq_some_iff.mp hp
  apply hstrip ("pattern", p)
  rw [← List.mem_reverse, hsplit]
  simp

/-- A pattern that is not empty can be written between braces if no blanks stand at its ends. -/
lemma exists_parse_of_strip {p : String} (hne : p ≠ "") (hstrip : Text.strip p = p) :
    ∃ arg d, parse arg = .ok ⟨p, d⟩ :=
  ⟨_, p, parse_writePair isKey_pattern isKey_desc hstrip hstrip ⟨rfl, hne⟩ ⟨rfl, hne⟩⟩

/-- A pattern can be written in no notation if it begins with the word, holds the mark of a
description and has blanks at its ends. All others can. -/
theorem exists_parse_iff {p : String} :
    (∃ arg d, parse arg = .ok ⟨p, d⟩) ↔
      ¬ ("pattern:".toList <+: p.toList ∧ ",desc:".toList <:+: p.toList ∧ Text.strip p ≠ p) := by
  constructor
  · rintro ⟨arg, d, h⟩ ⟨hword, hmark, hstrip⟩
    have hmarkText : ",desc:".toList = ',' :: "desc:".toList := rfl
    unfold parse at h
    dsimp only at h
    split_ifs at h with hbraces hstarts
    · rw [Bool.and_eq_true, decide_eq_true_eq, decide_eq_true_eq] at hbraces
      obtain ⟨inner, harg⟩ := exists_eq_braces hbraces.1 hbraces.2
      exact hstrip (strip_eq_of_parseBraced harg h)
    · rw [hmarkText] at h hmark
      split at h
      next pattern description hcut =>
        obtain ⟨rfl, -⟩ := PatternArgument.mk.inj (Except.ok.inj h)
        exact (of_partition?_eq_some hcut).2 (by simpa using hmark)
      next hcut =>
        obtain ⟨rfl, -⟩ := PatternArgument.mk.inj (Except.ok.inj h)
        exact partition?_eq_none_iff.mp hcut (by simpa using hmark)
    · obtain ⟨rfl, -⟩ := PatternArgument.mk.inj (Except.ok.inj h)
      exact hstarts (List.isPrefixOf_iff_prefix.mpr hword)
  · intro h
    by_cases hword : "pattern:".toList <+: p.toList
    · by_cases hmark : ",desc:".toList <:+: p.toList
      · have hstrip : Text.strip p = p := by
          by_contra hne
          exact h ⟨hword, hmark, hne⟩
        apply exists_parse_of_strip _ hstrip
        rintro rfl
        simp at hword
      · exact ⟨_, "", parse_described hmark ""⟩
    · -- a pattern between braces would be taken for pairs, but it has no blanks at its ends
      by_cases hbraces : p.toList.head? = some '\x7b' ∧ p.toList.getLast? = some '\x7d'
      · obtain ⟨inner, hp⟩ := exists_eq_braces hbraces.1 hbraces.2
        apply exists_parse_of_strip
        · rintro rfl
          simp at hp
        · rw [Text.strip, stripChars_braces hp, ← hp, String.ofList_toList]
      · exact ⟨p, p, parse_plain hword hbraces⟩

end PatternArgument

/-- A pattern is made if it compiles. -/
lemma Pattern.make_eq_ok {source description : String} {program : Program}
    (h : compile source = .ok program) :
    make source description = .ok ⟨source, description, program, h⟩ := by
  unfold make
  split
  next program' h' =>
    obtain rfl := Except.ok.inj (h.symm.trans h')
    rfl
  next e h' => simp [h] at h'

namespace Registry

/-! ### Validators of patterns -/

/-- What a pattern and its description make, a validator or an error. -/
def regex (p d : String) : Build Validator := do return .leaf (.pattern (← Pattern.make p d))

lemma build_regex {arg p d : String} (harg : arg ≠ "") (h : PatternArgument.parse arg = .ok ⟨p, d⟩)
    {depth : Int} (hdepth : depth ≤ 10) : build ("regex(" ++ arg ++ ")") depth = regex p d := by
  calc build ("regex(" ++ arg ++ ")") depth
    _ = pattern arg := build_whole lookup?_regex hdepth rfl harg
    _ = regex p d := by rw [pattern, h]; rfl

open PatternArgument in
/-- What is written in one of the three notations becomes what the pattern and its description make:
plain, after the word, and between braces in either order. -/
theorem build_regex_notations {depth : Int} (hdepth : depth ≤ 10) (p d : String) :
    (p ≠ "" → ¬ "pattern:".toList <+: p.toList →
      ¬ (p.toList.head? = some '\x7b' ∧ p.toList.getLast? = some '\x7d') →
      build ("regex(" ++ p ++ ")") depth = regex p p) ∧
    (¬ ",desc:".toList <:+: p.toList →
      build ("regex(pattern:" ++ p ++ ",desc:" ++ d ++ ")") depth = regex p d) ∧
    (p ≠ "" → Text.strip p = p → d ≠ "" → Text.strip d = d →
      build ("regex(\x7b" ++ writePair "pattern" p ++ "," ++ writePair "desc" d ++ "\x7d)") depth =
        regex p d ∧
      build ("regex(\x7b" ++ writePair "desc" d ++ "," ++ writePair "pattern" p ++ "\x7d)") depth =
        regex p d) := by
  refine ⟨?plain, ?word, ?braces⟩
  case plain =>
    intro hne hword hbraces
    exact build_regex hne (parse_plain hword hbraces) hdepth
  case word =>
    intro hmark
    have htext : "regex(pattern:" ++ p ++ ",desc:" ++ d ++ ")" =
        "regex(" ++ ("pattern:" ++ p ++ ",desc:" ++ d) ++ ")" := by simp [String.ext_iff]
    rw [htext]
    exact build_regex (by simp) (parse_described hmark d) hdepth
  case braces =>
    intro hp hpstrip hd hdstrip
    have htext : ∀ a b, "regex(\x7b" ++ a ++ "," ++ b ++ "\x7d)" =
        "regex(" ++ ("\x7b" ++ a ++ "," ++ b ++ "\x7d") ++ ")" := by simp [String.ext_iff]
    have hwritten := parse_writePair isKey_pattern isKey_desc hpstrip hdstrip ⟨rfl, hp⟩ ⟨rfl, hd⟩
    have hswapped := parse_writePair isKey_desc isKey_pattern hdstrip hpstrip ⟨rfl, hp⟩ ⟨rfl, hd⟩
    rw [htext, htext]
    exact ⟨build_regex (by simp) hwritten hdepth, build_regex (by simp) hswapped hdepth⟩

/-- A pattern with a comma, a parenthesis and a colon, in each notation. -/
theorem build_regex_notations_comma :
    (build "regex(a,\\):)" 0 = regex "a,\\):" "a,\\):" ∧
      build "regex(pattern:a,\\):,desc:x:y)" 0 = regex "a,\\):" "x:y" ∧
      build "regex(\x7bpattern:a\\,\\\\)\\:,desc:x\\:y\x7d)" 0 = regex "a,\\):" "x:y" ∧
      build "regex(\x7bdesc:x\\:y,pattern:a\\,\\\\)\\:\x7d)" 0 = regex "a,\\):" "x:y") ∧
    ∃ v, regex "a,\\):" "x:y" = .ok v := by
  have hdepth : (0 : Int) ≤ 10 := by decide
  obtain ⟨hplain, hword, hbraces⟩ := build_regex_notations hdepth "a,\\):" "x:y"
  obtain ⟨hbraced, hswapped⟩ := hbraces (by decide) (by decide) (by decide) (by decide)
  refine ⟨⟨hplain (by decide) (by decide) (by decide), hword (by decide), hbraced, hswapped⟩, ?_⟩
  obtain ⟨program, hprogram⟩ : ∃ program, Pattern.compile "a,\\):" = .ok program := ⟨_, rfl⟩
  rw [regex, Pattern.make_eq_ok hprogram]
  exact ⟨_, rfl⟩

end Registry

end ValueSpec
