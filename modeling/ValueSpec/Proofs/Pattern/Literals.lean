import Mathlib.Data.List.Infix
import ValueSpec.Proofs.Evaluation
import ValueSpec.Proofs.Pattern.Ends
import ValueSpec.Proofs.Pattern.Notations

namespace ValueSpec

namespace Pattern

/-! ### Steps of reading -/

section

variable {α β : Type} {s t : Source}

/-- A step that is taken gives what it returns to the next one. -/
lemma bind_of_ok {r : Read α} {a : α} (h : r s = .ok (a, t)) (f : α → Read β) :
    (r >>= f) s = f a t := by
  show r s >>= (fun p => f p.1 p.2) = _
  rw [h]
  rfl

lemma bind_of_error {r : Read α} {e : Failure} (h : r s = .error e) (f : α → Read β) :
    (r >>= f) s = .error e := by
  show r s >>= (fun p => f p.1 p.2) = _
  rw [h]
  rfl

lemma get_eq (s : Source) : (get : Read Source) s = .ok (s, s) := rfl

lemma peek_eq (s : Source) : peek s = .ok (s.ahead.head?, s) := rfl

lemma tell_eq (s : Source) : tell s = .ok (s.place, s) := rfl

/-- Glyphs are passed over unless a backslash that ends the pattern is one of them or comes next. -/
lemma skip_of_danglingAt?_eq_none {n : Nat} (h : s.danglingAt? (n + 1) = none) :
    skip n s = .ok ((), s.after n) := by
  rw [skip, bind_of_ok (get_eq s), h]
  rfl

lemma skip_eq (h : .dangling ∉ s.ahead) (n : Nat) : skip n s = .ok ((), s.after n) := by
  apply skip_of_danglingAt?_eq_none
  rw [Source.danglingAt?, if_neg]
  rw [List.contains_iff_mem]
  exact fun hmem => h (List.mem_of_mem_take hmem)

lemma accept_eq_of_nil (h : s.ahead = []) (c : Char) : accept c s = .ok (false, s) := by
  have hpeek : peek s = .ok (none, s) := by rw [peek_eq, h, List.head?_nil]
  rw [accept, bind_of_ok hpeek]
  rfl

end

section

variable {s : Source} {rest : List Glyph} {c : Char} (hrest : .dangling ∉ rest)
  (fuel calls : Nat) (first : Bool) (done : List Item)

include hrest

/-- A plain character begins a part, unless it separates or groups. -/
lemma sequence_plain (hs : s.ahead = .plain c :: rest) (hc : c ∉ ['|', '(', ')']) :
    sequence (fuel + 1) {} calls first done s =
      (simplePart {} s.place c done.head? >>= fun item =>
        sequence fuel {} calls first (addPart done item)) (s.after 1) := by
  have hskip : skip 1 s = .ok ((), s.after 1) := skip_eq (by simpa [hs] using hrest) 1
  have hpeek : peek s = .ok (some (.plain c), s) := by rw [peek_eq, hs, List.head?_cons]
  obtain ⟨hbar, hopen, hclose⟩ : c ≠ '|' ∧ c ≠ '(' ∧ c ≠ ')' := by simpa using hc
  rw [sequence, bind_of_ok (tell_eq s), bind_of_ok hpeek]
  simp only [hbar, hclose, hopen, decide_false, Bool.or_self, Bool.false_and, Bool.false_eq_true,
    if_false]
  rw [bind_of_ok hskip]

/-- An escape is a part. -/
lemma sequence_escaped (hs : s.ahead = .escaped c :: rest) :
    sequence (fuel + 1) {} calls first done s =
      (escape {} s.place c >>= fun item => sequence fuel {} calls first (item :: done))
        (s.after 1) := by
  have hskip : skip 1 s = .ok ((), s.after 1) := skip_eq (by simpa [hs] using hrest) 1
  have hpeek : peek s = .ok (some (.escaped c), s) := by rw [peek_eq, hs, List.head?_cons]
  rw [sequence, bind_of_ok (tell_eq s), bind_of_ok hpeek]
  dsimp only
  rw [bind_of_ok hskip]

end

/-! ### Simple patterns -/

lemma Regex.ofList_cons_cons (r r' : Regex) (rs : List Regex) :
    ofList (r :: r' :: rs) = .seq r (ofList (r' :: rs)) := rfl

/-- The part that a letter or digit stands for. -/
def letter (c : Char) : Item := { regex := .literal false c.toNat .exact }

/-- The part that a condition on a place stands for. -/
def sign (a : Anchor) : Item := { kind := .anchor, regex := .anchor a }

/-- A glyph that is a part by itself. -/
inductive Simple : Glyph → Item → Prop
  | letter {c : Char} (h : c.isAlphanum) : Simple (.plain c) (letter c)
  | caret : Simple (.plain '^') (sign .textStart)
  | dollar : Simple (.plain '$') (sign .lastLineEnd)
  | strictEnd : Simple (.escaped 'Z') (sign .textEnd)

lemma not_mem_of_isAlphanum {c : Char} (hc : c.isAlphanum) {signs : List Char}
    (hsigns : signs.all (!Char.isAlphanum ·)) : c ∉ signs := by
  intro hmem
  have hsign := List.all_eq_true.mp hsigns c hmem
  simp [hc] at hsign

lemma simplePart_letter {c : Char} (hc : c.isAlphanum) (start : Nat) (last : Option Item) :
    simplePart {} start c last = pure (letter c) := by
  have hsign : c ∉ ['.', '^', '$', '[', '?', '*', '+', '\x7b'] :=
    not_mem_of_isAlphanum hc (by decide)
  simp only [List.mem_cons, List.not_mem_nil, or_false, not_or] at hsign
  unfold simplePart
  dsimp only
  split
  case h_5 =>
    simp only [hsign, decide_false, Bool.or_self, Bool.false_eq_true, if_false]
    rfl
  all_goals simp at hsign

namespace Simple

variable {g : Glyph} {item : Item}

lemma ne_dangling (h : Simple g item) : g ≠ .dangling := by
  cases h <;> simp

lemma flaw?_eq_none (h : Simple g item) (template : Bool) : item.regex.flaw? template = none := by
  cases h <;> rfl

lemma sequence_eq (h : Simple g item) {s : Source} {rest : List Glyph} (hs : s.ahead = g :: rest)
    (hrest : .dangling ∉ rest) (fuel calls : Nat) (first : Bool) (done : List Item) :
    sequence (fuel + 1) {} calls first done s =
      sequence fuel {} calls first (item :: done) (s.after 1) := by
  cases h with
  | letter hc =>
    rw [sequence_plain hrest fuel calls first done hs (not_mem_of_isAlphanum hc (by decide)),
      simplePart_letter hc, pure_bind]
    rfl
  | caret =>
    rw [sequence_plain hrest fuel calls first done hs (by decide)]
    rfl
  | dollar =>
    rw [sequence_plain hrest fuel calls first done hs (by decide)]
    rfl
  | strictEnd =>
    rw [sequence_escaped hrest fuel calls first done hs]
    rfl

end Simple

section

variable {gs : List Glyph} {items : List Item} (h : List.Forall₂ Simple gs items)

include h

lemma dangling_not_mem_of_simple : .dangling ∉ gs := by
  induction h with
  | nil => simp
  | cons hg _ ih => simpa [hg.ne_dangling.symm] using ih

/-- Simple glyphs are read one after the other up to the end of the pattern. -/
lemma sequence_simple (fuel calls : Nat) (first : Bool) (done : List Item) {s : Source}
    (hs : s.ahead = gs) :
    ∃ place, sequence (fuel + gs.length + 1) {} calls first done s = .ok
      (Regex.ofList ((done.reverse ++ items).map (·.regex)), { s with ahead := [], place }) := by
  induction h generalizing done s with
  | nil =>
    have hpeek : peek s = .ok (none, s) := by rw [peek_eq, hs, List.head?_nil]
    have hend : { s with ahead := [], place := s.place } = s := by rw [← hs]
    refine ⟨s.place, ?_⟩
    rw [sequence, bind_of_ok (tell_eq s), bind_of_ok hpeek, hend, List.append_nil]
    rfl
  | @cons g item gs items hg hgs ih =>
    have hahead : (s.after 1).ahead = gs := by simp [Source.after, hs]
    obtain ⟨place, hplace⟩ := ih (item :: done) hahead
    refine ⟨place, ?_⟩
    rw [List.length_cons, ← Nat.add_assoc, hg.sequence_eq hs (dangling_not_mem_of_simple hgs),
      hplace]
    simp [Source.after]

lemma alternation_simple (fuel : Nat) {s : Source} (hs : s.ahead = gs) (hflags : s.flags = {}) :
    ∃ place, alternation (fuel + gs.length + 2) {} 0 true s =
      .ok (Regex.ofList (items.map (·.regex)), { s with ahead := [], place }) := by
  obtain ⟨place, hplace⟩ := sequence_simple h fuel 2 true [] hs
  refine ⟨place, ?_⟩
  rw [hflags] at hplace ⊢
  have henter : enter (0 + 2) s = .ok ((), s) := rfl
  rw [alternation, bind_of_ok henter, bind_of_ok (get_eq s), if_pos rfl, hflags]
  simp only [decide_true, Bool.and_self]
  rw [bind_of_ok hplace, bind_of_ok (accept_eq_of_nil rfl _)]
  rfl

lemma flaw?_simple (template : Bool) :
    (Regex.ofList (items.map (·.regex))).flaw? template = none := by
  induction h with
  | nil => rfl
  | @cons g item gs items hg hgs ih =>
    have hitem := hg.flaw?_eq_none template
    cases items with
    | nil => exact hitem
    | cons item' items =>
      rw [List.map_cons, List.map_cons, Regex.ofList_cons_cons, Regex.flaw?, hitem]
      exact ih

end

/-- A simple pattern is read as the sequence of its parts. -/
lemma read_simple {pattern : String} {items : List Item}
    (h : List.Forall₂ Simple (Glyph.ofString pattern) items) :
    read pattern = .ok ⟨{}, Regex.ofList (items.map (·.regex))⟩ := by
  generalize hgs : Glyph.ofString pattern = gs at h
  let s : Source := { ahead := gs }
  have hfuel : 2 * gs.length + 3 = gs.length + 1 + gs.length + 2 := by omega
  have hskip : skip 0 s = .ok ((), s.after 0) := skip_eq (dangling_not_mem_of_simple h) 0
  obtain ⟨place, hplace⟩ := alternation_simple h (gs.length + 1) (s := s.after 0) rfl rfl
  have hwhole : readWhole (2 * gs.length + 3) s =
      .ok (⟨{}, Regex.ofList (items.map (·.regex))⟩, { s with ahead := [], place }) := by
    rw [readWhole, bind_of_ok hskip, hfuel, bind_of_ok hplace, bind_of_ok (get_eq _)]
    dsimp only
    rw [flaw?_simple h]
    rfl
  rw [read, hgs]
  show (readWhole (2 * gs.length + 3)).run' s = _
  rw [StateT.run', hwhole]
  rfl

/-- Unless there are sets, every dollar sign becomes a strict end. -/
lemma ofString_strictEnd {pattern : String} (h : .plain '[' ∉ Glyph.ofString pattern) :
    Glyph.ofString (strictEnd pattern) = (Glyph.ofString pattern).map fun g =>
      if g = .plain '$' then .escaped 'Z' else g := by
  have hreads : ∀ gs, .plain '[' ∉ gs → Reads .carets gs (gs.map .glyph) := by
    intro gs hgs
    induction gs with
    | nil => exact .nil
    | cons g gs ih =>
      rw [List.mem_cons, not_or] at hgs
      exact .glyph (Ne.symm hgs.1) (ih hgs.2)
  have hpattern := hreads _ h
  have hstrict : strictEnd pattern =
      Part.text (((Glyph.ofString pattern).map .glyph).map .strict) := by
    rw [strictEnd, Part.text, strictGlyphs_of_reads hpattern]
  rw [hstrict, hpattern.ofString_text, List.map_map, List.flatMap_map, List.map_eq_flatMap]
  rfl

/-- A simple pattern compiles to the sequence of its parts with strict ends. -/
lemma compile_simple {pattern : String} {items strict : List Item}
    (h : List.Forall₂ Simple (Glyph.ofString pattern) items)
    (hstrict : List.Forall₂ Simple (Glyph.ofString (strictEnd pattern)) strict) :
    compile pattern = .ok ⟨{}, Regex.ofList (strict.map (·.regex))⟩ := by
  have hread : readFor pattern pattern = .ok ⟨{}, Regex.ofList (items.map (·.regex))⟩ := by
    rw [readFor, read_simple h]
  rw [compile, hread, Build.ok_bind, if_neg (by simp), readFor, read_simple hstrict]

/-! ### Matching -/

/-- A pattern is found if it matches from some place on. -/
lemma searchFrom_iff (r : Regex) (before : List Char) (place : Nat) (after : List Char) :
    r.searchFrom before place after ↔
      ∃ skipped rest, after = skipped ++ rest ∧
        (r.run ⟨skipped.reverse ++ before, rest, place + skipped.length, [], []⟩ some).isSome := by
  induction after generalizing before place with
  | nil => simp [Regex.searchFrom]
  | cons c after ih =>
    rw [Regex.searchFrom, Bool.or_eq_true, ih]
    constructor
    · rintro (hhere | ⟨skipped, rest, rfl, hlater⟩)
      · exact ⟨[], c :: after, rfl, hhere⟩
      · refine ⟨c :: skipped, rest, rfl, ?_⟩
        simpa [Nat.add_assoc, Nat.add_comm 1] using hlater
    · rintro ⟨skipped, rest, hsplit, hmatch⟩
      cases skipped with
      | nil =>
        obtain rfl : c :: after = rest := hsplit
        exact .inl hmatch
      | cons d skipped =>
        obtain ⟨rfl, rfl⟩ := List.cons.inj hsplit
        refine .inr ⟨skipped, rest, rfl, ?_⟩
        simpa [Nat.add_assoc, Nat.add_comm 1] using hmatch

lemma run_ofList_cons (r : Regex) (rs : List Regex) (s : State) (k : Rest) :
    (Regex.ofList (r :: rs)).run s k = r.run s fun t => (Regex.ofList rs).run t k := by
  cases rs <;> rfl

lemma run_ofList_append (rs rs' : List Regex) (s : State) (k : Rest) :
    (Regex.ofList (rs ++ rs')).run s k =
      (Regex.ofList rs).run s fun t => (Regex.ofList rs').run t k := by
  induction rs generalizing s with
  | nil => rfl
  | cons r rs ih => simp only [List.cons_append, run_ofList_cons, ih]

/-- A letter matches itself. -/
lemma run_letter (c : Char) (s t : State) (k : Rest) :
    (letter c).regex.run s k = some t ↔
      ∃ rest, s.after = c :: rest ∧
        k { s with before := c :: s.before, after := rest, place := s.place + 1 } = some t := by
  have hsame : ∀ d : Char, (CaseRule.exact.same d.toNat c.toNat != false) = decide (d = c) := by
    intro d
    simp [CaseRule.same, CaseRule.variants, CaseRule.lower, Char.toNat_inj]
  rw [letter, Regex.run, State.step]
  cases hafter : s.after with
  | nil => simp
  | cons d rest =>
    by_cases hd : d = c
    · simp [hsame, hd]
    · simp [hsame, hd]

/-- Several letters match themselves in their order. -/
lemma run_letters (cs : List Char) (s t : State) (k : Rest) :
    (Regex.ofList (cs.map fun c => (letter c).regex)).run s k = some t ↔
      ∃ rest, s.after = cs ++ rest ∧
        k { s with before := cs.reverse ++ s.before, after := rest, place := s.place + cs.length } =
          some t := by
  induction cs generalizing s with
  | nil => simp [Regex.ofList, Regex.run]
  | cons c cs ih =>
    rw [List.map_cons, run_ofList_cons, run_letter]
    simp [ih, Nat.add_assoc, Nat.add_comm 1]

/-! ### Pinned literals -/

end Pattern

/-- Whether a literal is pinned to the beginning and to the end of the text. -/
structure Pins where
  first : Bool
  last : Bool

namespace Pins

open Pattern

/-- Things with one before them and one after them, if there are pins. -/
def around {α : Type} (p : Pins) (before after : α) (as : List α) : List α :=
  (if p.first then [before] else []) ++ as ++ (if p.last then [after] else [])

/-- A literal as it is written with its pins. -/
def write (p : Pins) (s : String) : String := String.ofList (p.around '^' '$' s.toList)

/-- The pattern that a literal with its pins is compiled to. -/
def regex (p : Pins) (s : String) : Regex :=
  Regex.ofList (p.around (.anchor .textStart) (.anchor .textEnd)
    (s.toList.map fun c => (letter c).regex))

/-- A literal occurs in a text where its pins allow it. -/
def Occurs (p : Pins) (s value : String) : Prop :=
  ∃ before after, value.toList = before ++ s.toList ++ after ∧
    (p.first → before = []) ∧ (p.last → after = [])

/-- The leaf that looks for a literal where its pins allow it. -/
def leaf (p : Pins) (s : String) : Leaf :=
  match p.first, p.last with
  | false, false => .contains s
  | true, false => .hasPrefix s
  | false, true => .hasSuffix s
  | true, true => .equals s

variable (p : Pins)

lemma map_around {α β : Type} (f : α → β) (before after : α) (as : List α) :
    (p.around before after as).map f = p.around (f before) (f after) (as.map f) := by
  unfold around
  split_ifs <;> simp

lemma forall₂_around {α β : Type} {R : α → β → Prop} {a a' : α} {b b' : β} {as : List α}
    {bs : List β} (h : List.Forall₂ R as bs) (hbefore : R a b) (hafter : R a' b') :
    List.Forall₂ R (p.around a a' as) (p.around b b' bs) := by
  unfold around
  refine List.rel_append (List.rel_append ?_ h) ?_
  · split_ifs <;> simp [hbefore]
  · split_ifs <;> simp [hafter]

lemma mem_around {α : Type} {a before after : α} {as : List α} :
    a ∈ p.around before after as ↔ (p.first ∧ a = before) ∨ a ∈ as ∨ (p.last ∧ a = after) := by
  unfold around
  split_ifs <;> simp [*]

lemma compile_write {s : String} (hs : ∀ c ∈ s.toList, c.isAlphanum) :
    compile (p.write s) = .ok ⟨{}, p.regex s⟩ := by
  have hnot {sign : Char} (hsign : sign.isAlphanum = false) : sign ∉ s.toList := by
    intro hmem
    simp [hs sign hmem] at hsign
  have hletters : List.Forall₂ Simple (s.toList.map .plain) (s.toList.map letter) := by
    rw [List.forall₂_map_left_iff, List.forall₂_map_right_iff, List.forall₂_same]
    exact fun c hc => .letter (hs c hc)
  have hglyphs : Glyph.ofString (p.write s) =
      p.around (.plain '^') (.plain '$') (s.toList.map .plain) := by
    have hbackslash : '\\' ∉ p.around '^' '$' s.toList := by
      simp [mem_around, hnot]
    rw [Glyph.ofString, write, String.toList_ofList, Glyph.ofChars_eq_map hbackslash, map_around]
  have hstrict : Glyph.ofString (strictEnd (p.write s)) =
      p.around (.plain '^') (.escaped 'Z') (s.toList.map .plain) := by
    have hbracket : .plain '[' ∉ Glyph.ofString (p.write s) := by
      simp [hglyphs, mem_around, hnot]
    have hplain : (s.toList.map fun c => if Glyph.plain c = .plain '$' then .escaped 'Z' else
        Glyph.plain c) = s.toList.map .plain := by
      apply List.map_congr_left
      intro c hc
      have hdollar : c ≠ '$' := by
        rintro rfl
        exact hnot rfl hc
      simp [hdollar]
    rw [ofString_strictEnd hbracket, hglyphs, map_around, List.map_map, Function.comp_def, hplain]
    rfl
  have hread := p.forall₂_around hletters .caret .dollar
  have hreadStrict := p.forall₂_around hletters .caret .strictEnd
  rw [← hglyphs] at hread
  rw [← hstrict] at hreadStrict
  rw [compile_simple hread hreadStrict, map_around, List.map_map]
  rfl

lemma run_pin (pinned : Bool) (a : Anchor) (s t : State) (k : Rest) :
    (Regex.ofList (if pinned then [.anchor a] else [])).run s k = some t ↔
      (pinned → a.holds s) ∧ k s = some t := by
  cases pinned with
  | false => simp [Regex.ofList, Regex.run]
  | true => simp [Regex.ofList, Regex.run]

/-- A pinned literal matches in a text in which it occurs. -/
lemma matchesIn_regex (s value : String) :
    (p.regex s).matchesIn value.toList ↔ p.Occurs s value := by
  rw [Regex.matchesIn, searchFrom_iff]
  simp only [Option.isSome_iff_exists, regex, around, run_ofList_append, run_pin, run_letters]
  simp [Anchor.holds, Occurs]

end Pins

lemma Leaf.occurs_iff_infix {part text : List Char} : occurs part text ↔ part <:+: text := by
  induction text with
  | nil => rw [occurs, List.isEmpty_iff, List.infix_nil]
  | cons c text ih =>
    rw [occurs, Bool.or_eq_true, List.isPrefixOf_iff_prefix, ih, List.infix_cons_iff]

namespace Pins

variable (p : Pins) (s : String)

/-- The leaf that looks for a literal accepts the texts in which it occurs. -/
lemma leaf_decides : (Validator.leaf (p.leaf s)).Decides (p.Occurs s) := by
  obtain ⟨first, last⟩ := p
  cases first <;> cases last
  case false.false =>
    refine Validator.decides_of_require rfl rfl (fun value => rfl) fun value => ?_
    rw [Leaf.occurs_iff_infix]
    simp [Occurs, List.IsInfix, eq_comm]
  case true.false =>
    refine Validator.decides_of_require rfl rfl (fun value => rfl) fun value => ?_
    rw [List.isPrefixOf_iff_prefix]
    simp [Occurs, List.IsPrefix, eq_comm]
  case false.true =>
    refine Validator.decides_of_require rfl rfl (fun value => rfl) fun value => ?_
    rw [List.isSuffixOf_iff_suffix]
    simp [Occurs, List.IsSuffix, eq_comm]
  case true.true =>
    refine Validator.decides_of_require rfl rfl (fun value => rfl) fun value => ?_
    simp [Occurs, String.ext_iff]

variable {s}

/-- A pinned literal is a pattern as it is written. -/
lemma parse_write (hs : ∀ c ∈ s.toList, c.isAlphanum) :
    PatternArgument.parse (p.write s) = .ok ⟨p.write s, p.write s⟩ := by
  have hmem {c : Char} (hc : c ∈ (p.write s).toList) : c = '^' ∨ c.isAlphanum ∨ c = '$' := by
    rw [write, String.toList_ofList, mem_around] at hc
    rcases hc with ⟨-, rfl⟩ | hc | ⟨-, rfl⟩
    · exact .inl rfl
    · exact .inr (.inl (hs c hc))
    · exact .inr (.inr rfl)
  apply PatternArgument.parse_plain
  · intro hword
    have hcolon := hmem (hword.subset (a := ':') (by decide))
    simp at hcolon
  · rintro ⟨hhead, -⟩
    have hbrace := hmem (List.mem_of_mem_head? hhead)
    simp at hbrace

end Pins

namespace Registry

open Pattern

/-- A pinned literal is built, and it agrees with the leaf that looks for it. -/
lemma build_write (p : Pins) {s : String} (hne : s ≠ "") (hs : ∀ c ∈ s.toList, c.isAlphanum)
    {depth : Int} (hdepth : depth ≤ 10) :
    ∃ v, build ("regex(" ++ p.write s ++ ")") depth = .ok v ∧ v.Agree (.leaf (p.leaf s)) := by
  have hwritten : p.write s ≠ "" := by
    intro hempty
    have hnil : p.around '^' '$' s.toList = [] := by simpa [Pins.write] using hempty
    simp [Pins.around, hne] at hnil
  have hbuild := build_regex hwritten (p.parse_write hs) hdepth
  rw [regex, make_eq_ok (p.compile_write hs)] at hbuild
  refine ⟨_, hbuild, ?_⟩
  apply Validator.Decides.agree _ (p.leaf_decides s)
  exact Validator.decides_of_require rfl rfl (fun value => rfl)
    fun value => p.matchesIn_regex s value

/-- A pattern of letters and digits agrees with the leaf that looks for them anywhere in a value. A
caret before them and a dollar sign behind them pin them to the beginning and to the end, which is
not before a newline. -/
theorem build_regex_literal {s : String} (hne : s ≠ "") (hs : ∀ c ∈ s.toList, c.isAlphanum)
    {depth : Int} (hdepth : depth ≤ 10) :
    (∃ v, build ("regex(" ++ s ++ ")") depth = .ok v ∧ v.Agree (.leaf (.contains s))) ∧
    (∃ v, build ("regex(^" ++ s ++ ")") depth = .ok v ∧ v.Agree (.leaf (.hasPrefix s))) ∧
    (∃ v, build ("regex(" ++ s ++ "$)") depth = .ok v ∧ v.Agree (.leaf (.hasSuffix s))) ∧
    ∃ v, build ("regex(^" ++ s ++ "$)") depth = .ok v ∧ v.Agree (.leaf (.equals s)) := by
  have hanywhere : "regex(" ++ Pins.write ⟨false, false⟩ s ++ ")" = "regex(" ++ s ++ ")" := by
    simp [Pins.write, Pins.around]
  have hstart : "regex(" ++ Pins.write ⟨true, false⟩ s ++ ")" = "regex(^" ++ s ++ ")" := by
    simp [String.ext_iff, Pins.write, Pins.around]
  have hsuffix : "regex(" ++ Pins.write ⟨false, true⟩ s ++ ")" = "regex(" ++ s ++ "$)" := by
    simp [String.ext_iff, Pins.write, Pins.around]
  have hwhole : "regex(" ++ Pins.write ⟨true, true⟩ s ++ ")" = "regex(^" ++ s ++ "$)" := by
    simp [String.ext_iff, Pins.write, Pins.around]
  rw [← hanywhere, ← hstart, ← hsuffix, ← hwhole]
  exact ⟨build_write ⟨false, false⟩ hne hs hdepth, build_write ⟨true, false⟩ hne hs hdepth,
    build_write ⟨false, true⟩ hne hs hdepth, build_write ⟨true, true⟩ hne hs hdepth⟩

/-- A literal that overlaps with itself, at the deepest level. -/
theorem build_regex_literal_overlap :
    (∃ v, build "regex(a1a)" 10 = .ok v ∧ v.Agree (.leaf (.contains "a1a"))) ∧
    (∃ v, build "regex(^a1a)" 10 = .ok v ∧ v.Agree (.leaf (.hasPrefix "a1a"))) ∧
    (∃ v, build "regex(a1a$)" 10 = .ok v ∧ v.Agree (.leaf (.hasSuffix "a1a"))) ∧
    ∃ v, build "regex(^a1a$)" 10 = .ok v ∧ v.Agree (.leaf (.equals "a1a")) :=
  build_regex_literal (s := "a1a") (by decide) (List.all_eq_true.mp rfl) le_rfl

end Registry

end ValueSpec
