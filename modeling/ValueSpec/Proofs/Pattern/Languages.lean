import Mathlib.Computability.Language
import Mathlib.Data.List.Infix
import Mathlib.Tactic.Lemma
import Mathlib.Tactic.SplitIfs
import ValueSpec.Proofs.Pattern.Literals

namespace ValueSpec

namespace Pattern

/-! ### What follows a word -/

/-- One character of a kind. -/
def single (p : Char → Bool) : Language Char := {cs | ∃ c, p c ∧ cs = [c]}

/-- A text of a language, once more and once more, at most `most` times. -/
def repeated (l : Language Char) (most : Option Nat) : Language Char :=
  {cs | ∃ n, (∀ m ∈ most, n ≤ m) ∧ cs ∈ l ^ n}

/-- A text of a language comes first, and the rest has a property. -/
def Then (l : Language Char) (Q : List Char → Prop) (text : List Char) : Prop :=
  ∃ cs ∈ l, ∃ rest, text = cs ++ rest ∧ Q rest

section

variable {l l' : Language Char} {Q : List Char → Prop} {text : List Char} {p : Char → Bool}

@[simp] lemma then_one : Then 1 Q text ↔ Q text := by
  simp [Then, Language.mem_one]

lemma then_mul : Then (l * l') Q text ↔ Then l (Then l' Q) text := by
  constructor
  · rintro ⟨_, hmul, rest, rfl, hrest⟩
    obtain ⟨cs, hcs, ds, hds, rfl⟩ := Language.mem_mul.mp hmul
    exact ⟨cs, hcs, ds ++ rest, List.append_assoc _ _ _, ds, hds, rest, rfl, hrest⟩
  · rintro ⟨cs, hcs, _, rfl, ds, hds, rest, rfl, hrest⟩
    exact ⟨cs ++ ds, Language.append_mem_mul hcs hds, rest, (List.append_assoc _ _ _).symm, hrest⟩

lemma then_add : Then (l + l') Q text ↔ Then l Q text ∨ Then l' Q text := by
  simp only [Then, Language.mem_add, or_and_right, exists_or]

lemma then_single : Then (single p) Q text ↔ ∃ c rest, text = c :: rest ∧ p c ∧ Q rest := by
  constructor
  · rintro ⟨_, ⟨c, hc, rfl⟩, rest, rfl, hrest⟩
    exact ⟨c, rest, rfl, hc, hrest⟩
  · rintro ⟨c, rest, rfl, hc, hrest⟩
    exact ⟨[c], ⟨c, hc, rfl⟩, rest, rfl, hrest⟩

/-- A whole text is of the language if nothing has to follow. -/
lemma then_nil : Then l (· = []) text ↔ text ∈ l := by
  simp [Then]

lemma then_repeated_zero : Then (repeated l (some 0)) Q text ↔ Q text := by
  have hone : repeated l (some 0) = 1 := by
    ext cs
    rw [Language.mem_one]
    show (∃ n, (∀ m ∈ some 0, n ≤ m) ∧ cs ∈ l ^ n) ↔ cs = []
    simp [Language.mem_one]
  rw [hone, then_one]

/-- Either nothing is repeated, or something that is not empty comes first. -/
lemma then_repeated {most : Option Nat} (hmost : most ≠ some 0) :
    Then (repeated l most) Q text ↔
      Then l (fun rest => if rest.length = text.length then Q rest
        else Then (repeated l (most.map (· - 1))) Q rest) text ∨ Q text := by
  have hpred (n : Nat) : (∀ m ∈ most.map (· - 1), n ≤ m) ↔ ∀ m ∈ most, n + 1 ≤ m := by
    rcases most with _ | m
    · simp
    · have hm : m ≠ 0 := by
        rintro rfl
        exact hmost rfl
      simp
      omega
  constructor
  · rintro ⟨cs, ⟨n, hn, hcs⟩, rest, rfl, hrest⟩
    -- what is empty can be left out, and so the first that is not is looked for
    induction n generalizing cs with
    | zero =>
      obtain rfl : cs = [] := by simpa using hcs
      exact .inr hrest
    | succ n ih =>
      rw [pow_succ'] at hcs
      obtain ⟨first, hfirst, others, hothers, rfl⟩ := Language.mem_mul.mp hcs
      by_cases hnil : first = []
      · rw [hnil, List.nil_append]
        exact ih others (fun m hm => (Nat.le_succ n).trans (hn m hm)) hothers
      · refine .inl ⟨first, hfirst, others ++ rest, List.append_assoc _ _ _, ?_⟩
        have hlength : (others ++ rest).length ≠ (first ++ others ++ rest).length := by
          have := List.length_pos_of_ne_nil hnil
          simp
          omega
        show if _ then _ else _
        rw [if_neg hlength]
        exact ⟨others, ⟨n, (hpred n).mpr hn, hothers⟩, rest, rfl, hrest⟩
  · rintro (⟨first, hfirst, rest, rfl, hrest⟩ | hQ)
    · split_ifs at hrest with hlength
      · obtain rfl : first = [] := by simpa using hlength
        exact ⟨[], ⟨0, by simp, by simp⟩, rest, rfl, hrest⟩
      · obtain ⟨others, ⟨n, hn, hothers⟩, rest, rfl, hQ⟩ := hrest
        refine ⟨first ++ others, ⟨n + 1, (hpred n).mp hn, ?_⟩, rest,
          (List.append_assoc _ _ _).symm, hQ⟩
        rw [pow_succ']
        exact Language.append_mem_mul hfirst hothers
    · exact ⟨[], ⟨0, by simp, by simp⟩, text, rfl, hQ⟩

end

/-! ### Matchers -/

/-- A state lies further on in the same text than another one, or at the same place. -/
structure State.Ahead (t s : State) : Prop where
  suffix : t.after <:+ s.after
  place : t.place + t.after.length = s.place + s.after.length

lemma State.Ahead.trans {s t u : State} (hu : u.Ahead t) (ht : t.Ahead s) : u.Ahead s :=
  ⟨hu.suffix.trans ht.suffix, hu.place.trans ht.place⟩

lemma State.ahead_refl (s : State) : s.Ahead s := ⟨List.suffix_rfl, rfl⟩

/-- From a state on, what has to match depends on the text after it only. -/
def Tests (k : Rest) (s : State) (Q : List Char → Prop) : Prop :=
  ∀ t : State, t.Ahead s → ((k t).isSome ↔ Q t.after)

lemma Tests.mono {k : Rest} {s t : State} {Q : List Char → Prop} (h : Tests k s Q)
    (ht : t.Ahead s) : Tests k t Q := fun u hu => h u (hu.trans ht)

/-- A matcher that passes over the texts of a language. -/
def Passes (m : State → Rest → Option State) (l : Language Char) : Prop :=
  ∀ s k Q, Tests k s Q → ((m s k).isSome ↔ Then l Q s.after)

/-- Where two ways are tried in order, one of them has to lead somewhere. -/
lemma isSome_firstOf (o o' : Option State) :
    (match o with | some t => some t | none => o').isSome ↔ o.isSome ∨ o'.isSome := by
  cases o <;> simp

namespace Passes

variable {m m' : State → Rest → Option State} {l l' : Language Char}

lemma empty : Passes (fun s k => k s) 1 := by
  intro s k Q hk
  rw [hk s s.ahead_refl, then_one]

lemma step (p : Char → Bool) : Passes (fun s k => (s.step p).bind k) (single p) := by
  intro s k Q hk
  rw [then_single]
  dsimp only [State.step]
  cases hafter : s.after with
  | nil => simp
  | cons c rest =>
    let t : State := { s with before := c :: s.before, after := rest, place := s.place + 1 }
    have ht : t.Ahead s := by
      refine ⟨hafter ▸ List.suffix_cons c rest, ?_⟩
      rw [hafter, List.length_cons]
      show s.place + 1 + rest.length = _
      omega
    have hrest : (k t).isSome ↔ Q rest := hk t ht
    by_cases hc : p c
    · simp [hc, ← hrest, t]
    · simp [hc]

/-- What follows a matcher can be put before what follows. -/
lemma tests (h : Passes m l) {k : Rest} {s : State} {Q : List Char → Prop} (hk : Tests k s Q) :
    Tests (fun t => m t k) s (Then l Q) := fun t ht => h t k Q (hk.mono ht)

lemma seq (h : Passes m l) (h' : Passes m' l') :
    Passes (fun s k => m s fun t => m' t k) (l * l') := by
  intro s k Q hk
  rw [then_mul]
  exact h s _ _ (h'.tests hk)

lemma alt (h : Passes m l) (h' : Passes m' l') :
    Passes (fun s k => match m s k with | some t => some t | none => m' s k) (l + l') := by
  intro s k Q hk
  rw [then_add, ← h s k Q hk, ← h' s k Q hk]
  exact isSome_firstOf _ _

lemma exactly (h : Passes m l) (n : Nat) : Passes (Pattern.exactly m n) (l ^ n) := by
  induction n with
  | zero => exact empty
  | succ n ih =>
    rw [pow_succ']
    exact h.seq ih

/-- A repetition that stands still goes on with what follows, any other one with less fuel. -/
lemma tests_again (again : Rest) {k : Rest} {s : State} {Q Q' : List Char → Prop}
    (hk : Tests k s Q) (hagain : ∀ t : State, t.Ahead s → t.after.length < s.after.length →
      ((again t).isSome ↔ Q' t.after)) :
    Tests (fun t => if t.place = s.place then k t else again t) s fun rest =>
      if rest.length = s.after.length then Q rest else Q' rest := by
  intro t ht
  have hplace := ht.place
  have hlength := ht.suffix.length_le
  dsimp only
  split_ifs with hstill hsame hsame
  · exact hk t ht
  · omega
  · omega
  · exact hagain t ht (by omega)

lemma greedily (h : Passes m l) {fuel : Nat} {most : Option Nat} {s : State} {k : Rest}
    {Q : List Char → Prop} (hk : Tests k s Q) (hfuel : s.after.length < fuel) :
    (Pattern.greedily m fuel most s k).isSome ↔ Then (repeated l most) Q s.after := by
  induction fuel generalizing s most with
  | zero => omega
  | succ fuel ih =>
    rw [Pattern.greedily]
    split_ifs with hmost
    · rw [hmost, then_repeated_zero]
      exact hk s s.ahead_refl
    · have hagain := tests_again (fun t => Pattern.greedily m fuel (most.map (· - 1)) t k) hk
        fun t ht hlt => ih (hk.mono ht) (by omega)
      rw [then_repeated hmost, ← h s _ _ hagain, ← hk s s.ahead_refl]
      exact isSome_firstOf _ _

lemma reluctantly (h : Passes m l) {fuel : Nat} {most : Option Nat} {s : State} {k : Rest}
    {Q : List Char → Prop} (hk : Tests k s Q) (hfuel : s.after.length < fuel) :
    (Pattern.reluctantly m fuel most s k).isSome ↔ Then (repeated l most) Q s.after := by
  induction fuel generalizing s most with
  | zero => omega
  | succ fuel ih =>
    rw [Pattern.reluctantly]
    by_cases hmost : most = some 0
    · rw [hmost, then_repeated_zero, ← hk s s.ahead_refl]
      exact (isSome_firstOf _ _).trans (by simp)
    · have hagain := tests_again (fun t => Pattern.reluctantly m fuel (most.map (· - 1)) t k) hk
        fun t ht hlt => ih (hk.mono ht) (by omega)
      rw [then_repeated hmost, ← h s _ _ hagain, ← hk s s.ahead_refl, if_neg hmost, or_comm]
      exact isSome_firstOf _ _

end Passes

/-! ### Sets of characters -/

section

variable {c : Char}

lemma holds_point {p : Nat} : (SetItem.point p).holds .exact c ↔ c.toNat = p := by
  simp [SetItem.holds, CaseRule.same, CaseRule.variants, CaseRule.lower]

lemma holds_range {lo hi : Nat} :
    (SetItem.range lo hi).holds .exact c ↔ lo ≤ c.toNat ∧ c.toNat ≤ hi := by
  show (decide (lo ≤ c.toNat) && decide (c.toNat ≤ hi)) = true ↔ _
  simp

lemma isAlpha_iff_toNat :
    c.isAlpha ↔ (97 ≤ c.toNat ∧ c.toNat ≤ 122) ∨ (65 ≤ c.toNat ∧ c.toNat ≤ 90) := by
  have halpha : c.isAlpha = (c.isUpper || c.isLower) := rfl
  have hlower : c.isLower = (decide (97 ≤ c.val) && decide (c.val ≤ 122)) := rfl
  have hupper : c.isUpper = decide (65 ≤ c.val ∧ c.val ≤ 90) := rfl
  simp [halpha, hlower, hupper, UInt32.le_iff_toNat_le, or_comm]

lemma isAlphanum_iff_toNat :
    c.isAlphanum ↔ (97 ≤ c.toNat ∧ c.toNat ≤ 122) ∨ (65 ≤ c.toNat ∧ c.toNat ≤ 90) ∨
      (48 ≤ c.toNat ∧ c.toNat ≤ 57) := by
  simp [Char.isAlphanum, isAlpha_iff_toNat, Char.isDigit, UInt32.le_iff_toNat_le, or_assoc]

end

/-! ### Plain patterns -/

namespace Regex

/-- Does a pattern have a language? Then it looks at nothing but the characters it passes over, and
goes back to every way to do so. -/
def isPlain : Regex → Bool
  | empty | any _ | literal _ _ _ | set _ _ _ => true
  | seq r₁ r₂ | alt r₁ r₂ => r₁.isPlain && r₂.isPlain
  | loop greed _ _ r => greed ≠ .possessive && r.isPlain
  | group _ r => r.isPlain
  | _ => false

/-- The texts that a plain pattern passes over. -/
def language : Regex → Language Char
  | empty => 1
  | any newlineToo => single fun c => newlineToo || c ≠ '\n'
  | literal negated p rule => single fun c => rule.same c.toNat p != negated
  | set negated items rule => single (inSet rule negated items)
  | seq r₁ r₂ => r₁.language * r₂.language
  | alt r₁ r₂ => r₁.language + r₂.language
  | loop _ least most r => r.language ^ least * repeated r.language (most.map (· - least))
  | group _ r => r.language
  | _ => 0

/-- A plain pattern matches its language, and goes on where a text of it ends. -/
theorem passes_run {r : Regex} (h : r.isPlain) : Passes r.run r.language := by
  induction r with
  | empty => exact .empty
  | any newlineToo => exact .step _
  | literal negated p rule => exact .step _
  | set negated items rule => exact .step _
  | seq r₁ r₂ ih₁ ih₂ =>
    obtain ⟨h₁, h₂⟩ := (Bool.and_eq_true _ _).mp h
    exact (ih₁ h₁).seq (ih₂ h₂)
  | alt r₁ r₂ ih₁ ih₂ =>
    obtain ⟨h₁, h₂⟩ := (Bool.and_eq_true _ _).mp h
    exact (ih₁ h₁).alt (ih₂ h₂)
  | loop greed least most r ih =>
    obtain ⟨hgreed, hr⟩ := (Bool.and_eq_true _ _).mp h
    intro s k Q hk
    have hfuel (t : State) : t.after.length < t.after.length + 2 := by omega
    rw [language, then_mul]
    cases greed with
    | possessive => simp at hgreed
    | greedy =>
      exact (ih hr).exactly least s _ _ fun t ht => (ih hr).greedily (hk.mono ht) (hfuel t)
    | reluctant =>
      exact (ih hr).exactly least s _ _ fun t ht => (ih hr).reluctantly (hk.mono ht) (hfuel t)
  | group i r ih =>
    intro s k Q hk
    -- opening and closing a group does not move
    exact ih h (s.openGroup i) _ Q fun t ht => hk (t.closeGroup i) ⟨ht.suffix, ht.place⟩
  | anchor a => cases h
  | backref i rule => cases h
  | conditional i yes no => cases h
  | lookahead negated r => cases h
  | lookbehind width negated r => cases h
  | atomic r => cases h

/-- Between a pin at the beginning and one at the end a plain pattern matches the texts of its
language. -/
theorem matchesIn_pinned {rs : List Regex} (h : (ofList rs).isPlain) (text : List Char) :
    (ofList ([.anchor .textStart] ++ rs ++ [.anchor .textEnd])).matchesIn text ↔
      text ∈ (ofList rs).language := by
  have hend (s : State) : Tests (fun t => (ofList [.anchor .textEnd]).run t some) s (· = []) := by
    intro t _
    simp [ofList, run, Anchor.holds]
  rw [matchesIn, searchFrom_iff, ← then_nil]
  simp only [run_ofList_append]
  constructor
  · rintro ⟨skipped, rest, rfl, hrun⟩
    have hnil : skipped = [] := by
      by_contra hne
      simp [ofList, run, Anchor.holds, hne] at hrun
    rw [hnil] at hrun ⊢
    exact (passes_run h _ _ _ (hend _)).mp hrun
  · intro htext
    exact ⟨[], text, rfl, (passes_run h _ _ _ (hend _)).mpr htext⟩

/-! ### Texts of a language -/

variable {p : Char → Bool} {cs : List Char}

/-- A set matches one of the characters that its items hold. -/
lemma language_set {items : List SetItem} (h : ∀ c, (∃ i ∈ items, i.holds .exact c) ↔ p c) :
    (set false items .exact).language = single p := by
  have hp : inSet .exact false items = p := by
    funext c
    rw [Bool.eq_iff_iff, ← h c]
    simp [inSet]
  rw [language, hp]

lemma mem_language_literal {d : Char} :
    cs ∈ (literal false d.toNat .exact).language ↔ cs = [d] := by
  show (∃ c, _) ↔ _
  simp [CaseRule.same, CaseRule.variants, CaseRule.lower, Char.toNat_inj]

lemma mem_language_seq {r₁ r₂ : Regex} :
    cs ∈ (seq r₁ r₂).language ↔ ∃ as ∈ r₁.language, ∃ bs ∈ r₂.language, as ++ bs = cs :=
  Language.mem_mul

lemma mem_language_alt {r₁ r₂ : Regex} :
    cs ∈ (alt r₁ r₂).language ↔ cs ∈ r₁.language ∨ cs ∈ r₂.language := .rfl

/-- A pattern that is repeated at will matches any number of its texts in a row. -/
lemma mem_language_star {r : Regex} (greed : Greed) :
    cs ∈ (loop greed 0 none r).language ↔
      ∃ pieces, cs = List.flatten pieces ∧ ∀ piece ∈ pieces, piece ∈ r.language := by
  have hstar : (loop greed 0 none r).language = KStar.kstar r.language := by
    rw [language, pow_zero, one_mul, Language.kstar_eq_iSup_pow]
    ext cs
    rw [Language.mem_iSup]
    exact exists_congr fun n => and_iff_right nofun
  rw [hstar, Language.mem_kstar]

/-! ### Repeated characters -/

lemma mem_single_pow {n : Nat} :
    cs ∈ single p ^ n ↔ cs.length = n ∧ ∀ c ∈ cs, p c := by
  induction n generalizing cs with
  | zero => cases cs <;> simp
  | succ n ih =>
    rw [pow_succ', Language.mem_mul]
    constructor
    · rintro ⟨_, ⟨c, hc, rfl⟩, others, hothers, rfl⟩
      obtain ⟨hlength, hall⟩ := ih.mp hothers
      exact ⟨by simp [hlength], List.forall_mem_cons.mpr ⟨hc, hall⟩⟩
    · rintro ⟨hlength, hall⟩
      cases cs with
      | nil => cases hlength
      | cons c cs =>
        obtain ⟨hc, hcs⟩ := List.forall_mem_cons.mp hall
        exact ⟨[c], ⟨c, hc, rfl⟩, cs, ih.mpr ⟨Nat.succ.inj hlength, hcs⟩, rfl⟩

/-- A set that is repeated without an upper count matches characters of the set, and not too few. -/
lemma mem_language_loop {r : Regex} (hr : r.language = single p) (greed : Greed)
    (least : Nat) :
    cs ∈ (loop greed least none r).language ↔ least ≤ cs.length ∧ ∀ c ∈ cs, p c := by
  rw [language, hr, Language.mem_mul]
  constructor
  · rintro ⟨front, hfront, back, ⟨n, -, hback⟩, rfl⟩
    obtain ⟨hlength, hall⟩ := mem_single_pow.mp hfront
    exact ⟨by simp [hlength], List.forall_mem_append.mpr ⟨hall, (mem_single_pow.mp hback).2⟩⟩
  · rintro ⟨hlength, hall⟩
    rw [← List.take_append_drop least cs, List.forall_mem_append] at hall
    refine ⟨cs.take least, mem_single_pow.mpr ⟨List.length_take_of_le hlength, hall.1⟩,
      cs.drop least, ⟨_, nofun, mem_single_pow.mpr ⟨rfl, hall.2⟩⟩, List.take_append_drop _ _⟩

end Regex

end Pattern

/-! ### Validators of languages -/

open Pattern in
/-- A spec of a plain pattern between two pins decides the language of the pattern. -/
lemma Registry.build_pinned {text : String} {rs : List Regex}
    (hcompile : (compile ("^" ++ text ++ "$")).toOption.map (·.regex) =
      some (Regex.ofList ([.anchor .textStart] ++ rs ++ [.anchor .textEnd])))
    (hplain : (Regex.ofList rs).isPlain) {depth : Int} (hdepth : depth ≤ 10) :
    ∃ v, build ("regex(^" ++ text ++ "$)") depth = .ok v ∧
      v.Decides fun value => value.toList ∈ (Regex.ofList rs).language := by
  obtain ⟨program, hprogram, hregex⟩ : ∃ program, compile ("^" ++ text ++ "$") = .ok program ∧
      program.regex = Regex.ofList ([.anchor .textStart] ++ rs ++ [.anchor .textEnd]) := by
    cases hresult : compile ("^" ++ text ++ "$") with
    | error e => simp [hresult, Except.toOption] at hcompile
    | ok program => exact ⟨program, rfl, by simpa [hresult, Except.toOption] using hcompile⟩
  have hcaret : ("^" ++ text ++ "$").toList = '^' :: (text.toList ++ ['$']) := by simp
  have hparse : PatternArgument.parse ("^" ++ text ++ "$") =
      .ok ⟨"^" ++ text ++ "$", "^" ++ text ++ "$"⟩ :=
    PatternArgument.parse_plain (by simp [hcaret]) (by simp [hcaret])
  have hbuild := build_regex (by simp) hparse hdepth
  have htext : "regex(" ++ ("^" ++ text ++ "$") ++ ")" = "regex(^" ++ text ++ "$)" := by
    simp [String.ext_iff]
  rw [htext, regex, make_eq_ok hprogram] at hbuild
  refine ⟨_, hbuild, Validator.decides_of_require rfl rfl (fun value => rfl) fun value => ?_⟩
  rw [matchesIn, hregex]
  exact Regex.matchesIn_pinned hplain value.toList

end ValueSpec
