import ValueSpec.Proofs.Decoding
import ValueSpec.Proofs.Evaluation
import ValueSpec.Proofs.Suites

/-!
# Lists of escaped texts

A list of values and a list of specs are both written with commas between their items. Any text
can be an item once its commas and backslashes are escaped, and it reads back as it was. All that
is asked of it is that no blanks stand at its ends and that it has as many opening brackets as
closing ones, wherever they stand.
-/

namespace ValueSpec

open Balance Registry

/-! ### Escaping -/

/-- A character as it is written in an item of a list. -/
def escapeChar (c : Char) : List Char := if c ∈ valueEscapes then ['\\', c] else [c]

/-- A text with a backslash before each of its commas and backslashes. -/
def escape (s : String) : String := String.ofList (s.toList.flatMap escapeChar)

namespace Glyph

/-- The glyph that a character in an item of a list is read as. -/
def ofItem (c : Char) : Glyph := if c ∈ valueEscapes then escaped c else plain c

/-- In an escaped text every character is a glyph of its own. -/
lemma ofChars_escape (cs : List Char) : ofChars (cs.flatMap escapeChar) = cs.map ofItem :=
  ofChars_escapeIn (by decide) cs

/-- Decoding takes off what escaping has put on; it may know more escapes. -/
lemma flatMap_decode_ofItem {decoded : List Char} (h : ∀ c ∈ valueEscapes, c ∈ decoded)
    (cs : List Char) : (cs.map ofItem).flatMap (decode decoded) = cs :=
  flatMap_decode_ofCharIn h cs

/-- No comma of an escaped text separates. -/
lemma ofItem_ne (c : Char) : ofItem c ≠ dangling ∧ ofItem c ≠ plain ',' :=
  ⟨ofCharIn_ne_dangling c, ofCharIn_ne_plain (by decide) c⟩

end Glyph

/-- Escaping is undone by decoding. -/
lemma unescapeValue_escape (s : String) : unescapeValue (escape s) = s := by
  rw [unescapeValue, escape, Glyph.ofString, String.toList_ofList, Glyph.ofChars_escape,
    Glyph.flatMap_decode_ofItem fun c hc => hc, String.ofList_toList]

/-! ### Blanks at the ends -/

lemma head?_escape {cs : List Char} {c : Char} (h : c ∈ (cs.flatMap escapeChar).head?) :
    c = '\\' ∨ c ∈ cs.head? := by
  cases cs with
  | nil => simp at h
  | cons d cs =>
    rw [List.flatMap_cons, escapeChar] at h
    split_ifs at h with hd
    · left
      simpa using h.symm
    · right
      simpa using h

lemma getLast?_escape (cs : List Char) : (cs.flatMap escapeChar).getLast? = cs.getLast? := by
  induction cs using List.reverseRecOn with
  | nil => rfl
  | append_singleton cs c _ =>
    have hlast : (escapeChar c).getLast? = some c := by
      unfold escapeChar
      split_ifs <;> rfl
    rw [List.flatMap_append, List.flatMap_singleton, List.getLast?_append, hlast]
    simp

/-- Escaping puts no blanks at the ends of a text. -/
lemma stripChars_escape {cs : List Char} (h : Text.stripChars cs = cs) :
    Text.stripChars (cs.flatMap escapeChar) = cs.flatMap escapeChar := by
  apply Text.stripChars_eq_self
  · intro c hc
    rcases head?_escape hc with rfl | hhead
    · decide
    · rw [← h] at hhead
      exact Text.head?_stripChars_not_blank c hhead
  · intro c hc
    rw [getLast?_escape, ← h] at hc
    exact Text.getLast?_stripChars_not_blank c hc

/-! ### Brackets -/

namespace Balance

lemma step_ofItem (b : Balance) (c : Char) :
    b.step (.ofItem c) =
      { round := b.round + [c].count '(' - [c].count ')'
        curly := b.curly + [c].count '\x7b' - [c].count '\x7d' } := by
  unfold Glyph.ofItem
  split_ifs with hc
  · simp only [valueEscapes, List.mem_cons, List.not_mem_nil, or_false] at hc
    rcases hc with rfl | rfl <;> simp [step]
  · unfold step
    split <;> simp_all

/-- In an escaped text brackets count, and nothing else does. -/
lemma run_ofItem (b : Balance) (cs : List Char) :
    b.run (cs.map .ofItem) =
      { round := b.round + cs.count '(' - cs.count ')'
        curly := b.curly + cs.count '\x7b' - cs.count '\x7d' } := by
  induction cs generalizing b with
  | nil => simp [run]
  | cons c cs ih =>
    have hstep : b.run ((c :: cs).map .ofItem) = (b.step (.ofItem c)).run (cs.map .ofItem) := rfl
    rw [hstep, ih, step_ofItem]
    simp only [List.count_cons, List.count_nil, mk.injEq]
    constructor <;> omega

/-- Where no comma separates, only the balance in the end matters. -/
lemma settles_of_run {b : Balance} {gs : List Glyph}
    (hgs : ∀ g ∈ gs, g ≠ .dangling ∧ g ≠ .plain ',') (h : b.run gs = zero) :
    Settles Keeps b gs := by
  induction gs generalizing b with
  | nil => exact h
  | cons g gs ih =>
    obtain ⟨hdangling, hcomma⟩ := hgs g (by simp)
    exact ⟨hdangling, fun hg => absurd hg hcomma, ih (fun k hk => hgs k (by simp [hk])) h⟩

end Balance

/-! ### Items -/

/-- A text that can be an item of a list. -/
structure ListItem (s : String) : Prop where
  nonempty : s ≠ ""
  stripped : Text.strip s = s
  round : s.toList.count '(' = s.toList.count ')'
  curly : s.toList.count '\x7b' = s.toList.count '\x7d'

namespace ListItem

variable {s : String}

lemma stripChars_eq (h : ListItem s) : Text.stripChars s.toList = s.toList := by
  rw [← Text.toList_strip, h.stripped]

lemma escape_ne_empty (h : ListItem s) : escape s ≠ "" := by
  intro hempty
  apply h.nonempty
  rw [← unescapeValue_escape s, hempty]
  rfl

lemma settles (h : ListItem s) {cs : List Char} (hcs : (escape s).toList = cs) :
    Settles Keeps zero (Glyph.ofChars cs) := by
  rw [← hcs, escape, String.toList_ofList, Glyph.ofChars_escape]
  apply settles_of_run
  · intro g hg
    obtain ⟨c, -, rfl⟩ := List.mem_map.mp hg
    exact Glyph.ofItem_ne c
  · simp [run_ofItem, h.round, h.curly, zero]

/-- What an item is read as. -/
lemma decode_escape {decoded : List Char} (hdecoded : ∀ c ∈ valueEscapes, c ∈ decoded)
    (h : ListItem s) :
    Text.stripChars ((Glyph.ofChars (escape s).toList).flatMap (Glyph.decode decoded)) =
      s.toList := by
  rw [escape, String.toList_ofList, Glyph.ofChars_escape, Glyph.flatMap_decode_ofItem hdecoded,
    h.stripChars_eq]

end ListItem

/-! ### Lists of values -/

/-- Escaped values are arguments as they stand. -/
lemma splitArguments_escape {vals : List String} (hne : vals ≠ [])
    (hvals : ∀ v ∈ vals, ListItem v) :
    splitArguments (",".intercalate (vals.map escape)) = vals.map escape := by
  have hstrip : ∀ v ∈ vals, Text.stripChars (escape v).toList = (escape v).toList := by
    intro v hv
    rw [escape, String.toList_ofList]
    exact stripChars_escape (hvals v hv).stripChars_eq
  rw [intercalate_eq_ofList, splitArguments_intercalate (by simpa using hne), List.map_map,
    List.map_map]
  · apply List.map_congr_left
    intro v hv
    simp [hstrip v hv]
  · intro cs hcs
    obtain ⟨w, hw, hcs⟩ := List.mem_map.mp hcs
    obtain ⟨v, hv, rfl⟩ := List.mem_map.mp hw
    refine ⟨(hvals v hv).settles hcs, ?_⟩
    rw [← hcs, hstrip v hv]
    simpa using (hvals v hv).escape_ne_empty

/-! ### Words -/

section

variable {s : String} (h : ∀ c ∈ s.toList, c ∉ valueEscapes)

include h

lemma escape_eq_self : escape s = s := by
  have hchars : s.toList.flatMap escapeChar = s.toList.flatMap ([·]) := by
    apply List.flatMap_congr
    intro c hc
    rw [escapeChar, if_neg (h c hc)]
  rw [escape, hchars, List.flatMap_singleton', String.ofList_toList]

lemma unescapeValue_eq_self : unescapeValue s = s := by
  conv_lhs => rw [← escape_eq_self h, unescapeValue_escape]

end

/-- The characters that have a meaning in lists of arguments. -/
def listMarks : List Char := [',', '\\', '(', ')', '\x7b', '\x7d']

/-- A text without blanks and without characters that have a meaning in lists. -/
structure IsWord (s : String) : Prop where
  nonempty : s ≠ ""
  ordinary : ∀ c ∈ s.toList, Text.isBlank c = false ∧ c ∉ listMarks

namespace IsWord

lemma of_all {s : String} (hne : s ≠ "")
    (h : s.toList.all fun c => Text.isBlank c = false ∧ c ∉ listMarks) : IsWord s :=
  ⟨hne, fun c hc => of_decide_eq_true (List.all_eq_true.mp h c hc)⟩

variable {s : String} (h : IsWord s)

include h

lemma not_mem_valueEscapes : ∀ c ∈ s.toList, c ∉ valueEscapes := by
  have hsubset : ∀ c ∈ valueEscapes, c ∈ listMarks := by simp [valueEscapes, listMarks]
  exact fun c hc hescape => (h.ordinary c hc).2 (hsubset c hescape)

lemma count_eq_zero {c : Char} (hc : c ∈ listMarks) : s.toList.count c = 0 :=
  List.count_eq_zero.mpr fun hmem => (h.ordinary c hmem).2 hc

lemma stripChars_eq : Text.stripChars s.toList = s.toList :=
  Text.stripChars_eq_self (fun c hc => (h.ordinary c (List.mem_of_mem_head? hc)).1)
    fun c hc => (h.ordinary c (List.mem_of_mem_getLast? hc)).1

lemma listItem : ListItem s where
  nonempty := h.nonempty
  stripped := by rw [Text.strip, h.stripChars_eq, String.ofList_toList]
  round := by rw [h.count_eq_zero (by decide), h.count_eq_zero (by decide)]
  curly := by rw [h.count_eq_zero (by decide), h.count_eq_zero (by decide)]

/-- A call that has a word between its parentheses can be an item of a list. -/
lemma call_listItem {name : String} (hname : IsWord name) : ListItem (name ++ "(" ++ s ++ ")") := by
  have hchars : (name ++ "(" ++ s ++ ")").toList = name.toList ++ '(' :: (s.toList ++ [')']) := by
    simp
  have hcount {c : Char} (hc : c ∈ listMarks) :
      (name ++ "(" ++ s ++ ")").toList.count c = ['(', ')'].count c := by
    rw [hchars]
    simp [List.count_cons, h.count_eq_zero hc, hname.count_eq_zero hc]
  refine ⟨?_, ?_, ?_, ?_⟩
  · intro hempty
    rw [hempty] at hchars
    simp at hchars
  · have hne : name.toList ≠ [] := mt String.toList_eq_nil_iff.mp hname.nonempty
    obtain ⟨c, cs, hcs⟩ := List.exists_cons_of_ne_nil hne
    have hblank : Text.isBlank c = false := (hname.ordinary c (by simp [hcs])).1
    have hclose : Text.isBlank ')' = false := by decide
    rw [Text.strip, hchars, Text.stripChars_eq_self, ← hchars, String.ofList_toList]
    · simpa [hcs] using hblank
    · intro c hc
      rw [← List.cons_append, ← List.append_assoc, List.getLast?_concat] at hc
      exact Option.some.inj hc ▸ hclose
  · rw [hcount (by decide), hcount (by decide)]
    rfl
  · rw [hcount (by decide), hcount (by decide)]
    rfl

lemma call_not_mem_valueEscapes {name : String} (hname : IsWord name) :
    ∀ c ∈ (name ++ "(" ++ s ++ ")").toList, c ∉ valueEscapes := by
  have hopen : ∀ c ∈ "(".toList, c ∉ valueEscapes := by simp [valueEscapes]
  have hclose : ∀ c ∈ ")".toList, c ∉ valueEscapes := by simp [valueEscapes]
  simp only [String.toList_append, List.forall_mem_append]
  exact ⟨⟨⟨hname.not_mem_valueEscapes, hopen⟩, h.not_mem_valueEscapes⟩, hclose⟩

end IsWord

/-- Items that have nothing to be escaped are arguments as they stand. -/
lemma splitArguments_items {items : List String} (hne : items ≠ [])
    (hitems : ∀ s ∈ items, ListItem s) (hplain : ∀ s ∈ items, ∀ c ∈ s.toList, c ∉ valueEscapes) :
    splitArguments (",".intercalate items) = items := by
  have hescape : items.map escape = items := by
    conv_rhs => rw [← List.map_id items]
    exact List.map_congr_left fun s hs => escape_eq_self (hplain s hs)
  rw [← hescape, splitArguments_escape hne hitems]

lemma intercalate_pair (s t : String) : ",".intercalate [s, t] = s ++ "," ++ t := rfl

/-- Calls of words are arguments as they stand. -/
lemma splitArguments_calls {p q s t : String} (hp : IsWord p) (hq : IsWord q) (hs : IsWord s)
    (ht : IsWord t) :
    splitArguments (p ++ "(" ++ s ++ ")" ++ "," ++ (q ++ "(" ++ t ++ ")")) =
      [p ++ "(" ++ s ++ ")", q ++ "(" ++ t ++ ")"] := by
  have hitems : ∀ c ∈ [p ++ "(" ++ s ++ ")", q ++ "(" ++ t ++ ")"], ListItem c := by
    simp only [List.forall_mem_cons]
    exact ⟨hs.call_listItem hp, ht.call_listItem hq, by simp⟩
  have hplain : ∀ w ∈ [p ++ "(" ++ s ++ ")", q ++ "(" ++ t ++ ")"],
      ∀ c ∈ w.toList, c ∉ valueEscapes := by
    simp only [List.forall_mem_cons]
    exact ⟨hs.call_not_mem_valueEscapes hp, ht.call_not_mem_valueEscapes hq, by simp⟩
  rw [← intercalate_pair, splitArguments_items (List.cons_ne_nil _ _) hitems hplain]

/-- Words are arguments as they stand, and so they are as values. -/
lemma splitArguments_words {ws : List String} (hne : ws ≠ []) (hws : ∀ w ∈ ws, IsWord w) :
    (splitArguments (",".intercalate ws)).map unescapeValue = ws := by
  have hplain w hw := (hws w hw).not_mem_valueEscapes
  rw [splitArguments_items hne (fun w hw => (hws w hw).listItem) hplain]
  conv_rhs => rw [← List.map_id ws]
  exact List.map_congr_left fun w hw => unescapeValue_eq_self (hplain w hw)

namespace Registry

/-- A validator of values is made of the values themselves. -/
lemma build_escape {name : String} {e : Entry} {make : List String → Validator}
    (h : lookup? name = some e) (hform : e.form = .some make) {vals : List String}
    (hvals : vals ≠ []) (hitems : ∀ v ∈ vals, ListItem v) {d : Int} (hd : d ≤ 10) :
    build (name ++ "(" ++ ",".intercalate (vals.map escape) ++ ")") d = .ok (make vals) := by
  have hsplit := splitArguments_escape hvals hitems
  have hargs : (splitArguments (",".intercalate (vals.map escape))).map unescapeValue = vals := by
    rw [hsplit, List.map_map]
    simp [Function.comp_def, unescapeValue_escape]
  rw [build_some h hd hform (by simpa [hsplit] using hvals), hargs]

end Registry

/-- A choice among values accepts these values. -/
lemma Validator.run_oneOf (vals : List String) (value : String) :
    ∃ o, (leaf (.oneOf vals)).run value = ⟨[], .ok o⟩ ∧ (o.isAccepted ↔ value ∈ vals) := by
  have hcomplaint : (Leaf.oneOf vals).complaint? value = .ok (Leaf.require (vals.contains value)
      .mustBeOneOf [("allowed", .texts vals)]) := rfl
  obtain ⟨o, hrun, ho⟩ := run_leaf_of_require rfl hcomplaint
  exact ⟨o, hrun, by rw [ho, List.contains_iff_mem]⟩

/-- A negation accepts what its child rejects. -/
lemma Validator.run_not {v : Validator} {value : String} {calls : List String} {o : Outcome}
    (hname : v.isNameable) (h : v.run value = ⟨calls, .ok o⟩) :
    ∃ o', (not v).run value = ⟨calls, .ok o'⟩ ∧ (o'.isAccepted ↔ ¬ o.isAccepted) := by
  have hwrite : (not v).writeName = .ok (not v).name := Integer.writing_of_short hname _
  rw [run, h]
  cases o <;> simp [Outcome.isAccepted, hwrite, Traced.of]

open Validator in
/-- Every list of values can be written as the arguments of a choice, which accepts just these
values, and as those of the contrary choice, which accepts all others. -/
theorem build_isoneof_escape {vals : List String} (hvals : vals ≠ [])
    (hitems : ∀ v ∈ vals, ListItem v) {d : Int} (hd : d ≤ 10) :
    (build ("isoneof(" ++ ",".intercalate (vals.map escape) ++ ")") d = .ok (leaf (.oneOf vals)) ∧
      ∀ value, ∃ o, (leaf (.oneOf vals)).run value = ⟨[], .ok o⟩ ∧
        (o.isAccepted ↔ value ∈ vals)) ∧
    ∃ w, build ("isnotoneof(" ++ ",".intercalate (vals.map escape) ++ ")") d = .ok w ∧
      ∀ value, ∃ o, w.run value = ⟨[], .ok o⟩ ∧ (o.isAccepted ↔ value ∉ vals) := by
  refine ⟨⟨?_, run_oneOf vals⟩, not (leaf (.oneOf vals)), ?_, ?_⟩
  · have hlookup : lookup? "isoneof" =
        some { name := "isoneof", form := .some fun values => leaf (.oneOf values) } :=
      lookup?_of_isLower (by decide)
    exact build_escape hlookup rfl hvals hitems hd
  · have hlookup : lookup? "isnotoneof" =
        some { name := "isnotoneof", form := .some fun values => not (leaf (.oneOf values)) } :=
      lookup?_of_isLower (by decide)
    exact build_escape hlookup rfl hvals hitems hd
  · intro value
    obtain ⟨o, hrun, ho⟩ := run_oneOf vals value
    obtain ⟨o', hrun', ho'⟩ := run_not rfl hrun
    exact ⟨o', hrun', ho'.trans (not_congr ho)⟩

/-- Values with separators, brackets that close first, and a backslash at an end. -/
theorem build_isoneof_escape_brackets :
    let vals := ["a,b\\", ")(", "\\d\x7b2,3\x7d"]
    build "isoneof(a\\,b\\\\,)(,\\\\d\x7b2\\,3\x7d)" 10 = .ok (.leaf (.oneOf vals)) ∧
      ∃ w, build "isnotoneof(a\\,b\\\\,)(,\\\\d\x7b2\\,3\x7d)" 10 = .ok w ∧
        ∃ o, w.run ")(" = ⟨[], .ok o⟩ ∧ ¬ o.isAccepted := by
  intro vals
  have hitems : ∀ v ∈ vals, ListItem v := by
    simp only [vals, List.forall_mem_cons]
    exact ⟨⟨by decide, by decide, by decide, by decide⟩,
      ⟨by decide, by decide, by decide, by decide⟩,
      ⟨by decide, by decide, by decide, by decide⟩, by simp⟩
  have hdepth : (10 : Int) ≤ 10 := le_refl 10
  obtain ⟨⟨hbuild, -⟩, w, hnot, hrun⟩ := build_isoneof_escape (by simp [vals]) hitems hdepth
  obtain ⟨o, ho, hverdict⟩ := hrun ")("
  exact ⟨hbuild, w, hnot, o, ho, by simp [hverdict, vals]⟩

/-! ### Lists of specs -/

/-- Every list of specs can be written as one text, which is read as the list is. -/
theorem splitSpecs_escape {specs : List String} (hitems : ∀ s ∈ specs, ListItem s) :
    splitSpecs (",".intercalate (specs.map escape)) = specs ∧
      ∀ cat, Suite.parseList cat (",".intercalate (specs.map escape)) =
        Suite.parseAll cat specs := by
  have hsplit : splitSpecs (",".intercalate (specs.map escape)) = specs := by
    by_cases hne : specs = []
    · rw [hne]
      rfl
    have hescapes : ∀ c ∈ valueEscapes, c ∈ specEscapes := by
      simp [valueEscapes, specEscapes]
    have hdecode := fun s hs => (hitems s hs).decode_escape hescapes
    rw [intercalate_eq_ofList, splitSpecs,
      Splitting.segments_intercalate _ (by simpa using hne), List.map_map, List.map_map]
    · conv_rhs => rw [← List.map_id specs]
      apply List.map_congr_left
      intro s hs
      simp [hdecode s hs]
    · intro cs hcs
      obtain ⟨w, hw, hcs⟩ := List.mem_map.mp hcs
      obtain ⟨s, hs, rfl⟩ := List.mem_map.mp hw
      refine ⟨(hitems s hs).settles hcs, ?_⟩
      rw [← hcs, hdecode s hs]
      simpa using (hitems s hs).nonempty
  refine ⟨hsplit, fun cat => ?_⟩
  rw [Suite.parseList, hsplit]

/-- Specs that hold escapes and separators of their own. -/
theorem splitSpecs_escape_regex :
    let specs := ["regex(\\d\x7b2,3\x7d\\.)", "isoneof(a\\,b,c)", "email"]
    let text := "regex(\\\\d\x7b2\\,3\x7d\\\\.),isoneof(a\\\\\\,b\\,c),email"
    splitSpecs text = specs ∧ Suite.parseList .english text = Suite.parseAll .english specs := by
  intro specs text
  have hitems : ∀ s ∈ specs, ListItem s := by
    simp only [specs, List.forall_mem_cons]
    exact ⟨⟨by decide, by decide, by decide, by decide⟩,
      ⟨by decide, by decide, by decide, by decide⟩,
      ⟨by decide, by decide, by decide, by decide⟩, by simp⟩
  obtain ⟨hsplit, hparse⟩ := splitSpecs_escape hitems
  exact ⟨hsplit, hparse .english⟩

end ValueSpec
