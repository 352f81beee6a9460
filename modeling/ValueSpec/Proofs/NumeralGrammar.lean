import Mathlib.Computability.Language
import ValueSpec.Proofs.Ranges

namespace ValueSpec

namespace Binary64

open Integer

/-! ### The grammar -/

namespace Grammar

def sign : Language Char := {[], ['+'], ['-']}

/-- The words for what is infinite or no number, in any letter case. -/
def word : Language Char :=
  {cs | cs.map Char.toLower ∈ ["inf".toList, "infinity".toList, "nan".toList]}

/-- At least one digit, of any script. -/
def digits : Language Char := {cs | cs ≠ [] ∧ ∀ c ∈ cs, Text.isDigit c}

/-- Digits, with a point after, between or before them. -/
def decimal : Language Char := digits * (1 + {['.']} * (1 + digits)) + {['.']} * digits

def exponent : Language Char := {['e'], ['E']} * (sign * digits)

def numeral : Language Char := sign * (word + decimal * (1 + exponent))

end Grammar

open Grammar

/-! ### Longest matches -/

/-- No text of a language begins with a character of a kind. -/
def Avoids (l : Language Char) (p : Char → Prop) : Prop := ∀ c cs, c :: cs ∈ l → ¬ p c

lemma takeDigits_snd (cs : List Char) : (takeDigits cs).2 = cs.dropWhile Text.isDigit := by
  induction cs with
  | nil => rfl
  | cons c cs ih => cases h : Text.digitValue? c <;> simp [takeDigits, Text.isDigit, h, ih]

lemma takeDigits_fst_eq_nil_iff (cs : List Char) :
    (takeDigits cs).1 = [] ↔ cs.takeWhile Text.isDigit = [] := by
  cases cs with
  | nil => simp [takeDigits]
  | cons c cs => cases h : Text.digitValue? c <;> simp [takeDigits, Text.isDigit, h]

/-- Where no digit is taken, all is left. -/
lemma takeDigits_snd_of_nil {cs : List Char} (h : (takeDigits cs).1 = []) :
    (takeDigits cs).2 = cs := by
  have hcs := List.takeWhile_append_dropWhile (p := Text.isDigit) (l := cs)
  rwa [(takeDigits_fst_eq_nil_iff cs).mp h, List.nil_append, ← takeDigits_snd] at hcs

section

variable {l : Language Char} {cs : List Char}

lemma dropWhile_isDigit (hl : Avoids l (Text.isDigit ·)) (hcs : cs ∈ l) :
    cs.dropWhile Text.isDigit = cs := by
  cases cs with
  | nil => rfl
  | cons c cs => exact List.dropWhile_cons_of_neg (hl c cs hcs)

/-- All digits at the beginning belong together if no others can follow them. -/
lemma mem_digits_mul_iff (hl : Avoids l (Text.isDigit ·)) :
    cs ∈ digits * l ↔ (takeDigits cs).1 ≠ [] ∧ (takeDigits cs).2 ∈ l := by
  rw [Ne, takeDigits_fst_eq_nil_iff, takeDigits_snd, Language.mem_mul]
  constructor
  · rintro ⟨ds, ⟨hne, hds⟩, rest, hrest, rfl⟩
    rw [List.takeWhile_append_of_pos hds, List.dropWhile_append_of_pos hds,
      dropWhile_isDigit hl hrest]
    exact ⟨by simp [hne], hrest⟩
  · rintro ⟨hne, hrest⟩
    exact ⟨_, ⟨hne, fun c hc => List.mem_takeWhile_imp hc⟩, _, hrest,
      List.takeWhile_append_dropWhile⟩

lemma mem_optional_digits_mul_iff (hl : Avoids l (Text.isDigit ·)) :
    cs ∈ l + digits * l ↔ (takeDigits cs).2 ∈ l := by
  rw [Language.mem_add, mem_digits_mul_iff hl]
  constructor
  · rintro (hcs | ⟨-, hrest⟩)
    · rwa [takeDigits_snd, dropWhile_isDigit hl hcs]
    · exact hrest
  · intro hrest
    by_cases hnil : (takeDigits cs).1 = []
    · exact .inl (takeDigits_snd_of_nil hnil ▸ hrest)
    · exact .inr ⟨hnil, hrest⟩

lemma mem_sign_mul_iff (hl : Avoids l (· ∈ ['+', '-'])) :
    cs ∈ sign * l ↔ (takeSign cs).2 ∈ l := by
  rw [Language.mem_mul]
  constructor
  · rintro ⟨s, hs, rest, hrest, rfl⟩
    rcases hs with rfl | rfl | rfl
    · rw [List.nil_append]
      unfold takeSign
      split
      · exact absurd (by simp) (hl _ _ hrest)
      · exact absurd (by simp) (hl _ _ hrest)
      · exact hrest
    · exact hrest
    · exact hrest
  · intro hrest
    obtain ⟨s, hs, hcs⟩ := takeSign_append cs
    have hmem : s = [] ∨ s = ['+'] ∨ s = ['-'] := by simpa using hs
    exact ⟨s, hmem, _, hrest, hcs.symm⟩

lemma mem_singleton_mul_iff {c : Char} :
    cs ∈ ({[c]} : Language Char) * l ↔ ∃ rest ∈ l, cs = c :: rest := by
  rw [Language.mem_mul]
  constructor
  · rintro ⟨_, rfl, rest, hrest, rfl⟩
    exact ⟨rest, hrest, rfl⟩
  · rintro ⟨rest, hrest, rfl⟩
    exact ⟨[c], rfl, rest, hrest, rfl⟩

end

/-! ### Exponents -/

/-- What may follow the digits of a numeral. -/
def ending : Language Char := 1 + exponent

lemma nil_mem_ending : [] ∈ ending := .inl rfl

lemma cons_mem_ending_iff {c : Char} {rest : List Char} :
    c :: rest ∈ ending ↔ (c = 'e' ∨ c = 'E') ∧ rest ∈ sign * digits := by
  rw [ending, Language.mem_add, exponent, Language.mem_mul]
  constructor
  · rintro (hnil | ⟨_, hletter, rest', hrest, heq⟩)
    · cases hnil
    · rcases hletter with rfl | rfl
      · obtain ⟨rfl, rfl⟩ := List.cons.inj heq
        exact ⟨.inl rfl, hrest⟩
      · obtain ⟨rfl, rfl⟩ := List.cons.inj heq
        exact ⟨.inr rfl, hrest⟩
  · rintro ⟨rfl | rfl, hrest⟩
    · exact .inr ⟨['e'], .inl rfl, rest, hrest, rfl⟩
    · exact .inr ⟨['E'], .inr rfl, rest, hrest, rfl⟩

/-- An ending begins with a letter, and so with nothing that could belong to what it follows. -/
lemma ending_avoids {p : Char → Prop} (he : ¬ p 'e') (hE : ¬ p 'E') : Avoids ending p := by
  intro c cs hcs
  obtain ⟨rfl | rfl, -⟩ := cons_mem_ending_iff.mp hcs
  · exact he
  · exact hE

lemma one_avoids {p : Char → Prop} : Avoids 1 p := nofun

/-- Digits are no signs. -/
lemma digits_avoids_sign : Avoids digits (· ∈ ['+', '-']) := by
  rintro c cs ⟨-, hdigits⟩ hmem
  have hnone : ['+', '-'].all (!Text.isDigit ·) := by decide
  simpa [hdigits c (by simp)] using List.all_eq_true.mp hnone c hmem

lemma mem_sign_mul_digits_iff {cs : List Char} :
    cs ∈ sign * digits ↔
      (takeDigits (takeSign cs).2).1 ≠ [] ∧ (takeDigits (takeSign cs).2).2 = [] := by
  rw [mem_sign_mul_iff digits_avoids_sign, ← mul_one digits, mem_digits_mul_iff one_avoids,
    Language.mem_one]

lemma isSome_readExponent?_iff {cs : List Char} :
    (readExponent? cs).isSome ↔ cs ∈ ending := by
  cases cs with
  | nil => exact iff_of_true rfl nil_mem_ending
  | cons c rest =>
    rw [readExponent?, cons_mem_ending_iff, mem_sign_mul_digits_iff]
    by_cases hc : c = 'e' ∨ c = 'E'
    · rcases htaken : takeDigits (takeSign rest).2 with ⟨_ | ⟨d, ds⟩, _ | ⟨d', rest'⟩⟩ <;>
        simp [hc, htaken]
    · simp [hc]

/-! ### Decimals -/

/-- What may follow the digits before a point. -/
def afterWhole : Language Char := ending + {['.']} * (ending + digits * ending)

lemma decimal_mul_ending :
    decimal * ending = digits * afterWhole + {['.']} * (digits * ending) := by
  simp only [decimal, afterWhole, add_mul, mul_add, mul_assoc, mul_one]

lemma ending_avoids_digits : Avoids ending (Text.isDigit ·) := ending_avoids (by decide) (by decide)

lemma point_mem_afterWhole_iff {rest : List Char} :
    '.' :: rest ∈ afterWhole ↔ (takeDigits rest).2 ∈ ending := by
  rw [afterWhole, Language.mem_add, cons_mem_ending_iff, mem_singleton_mul_iff,
    ← mem_optional_digits_mul_iff ending_avoids_digits]
  simp

lemma mem_afterWhole_iff {cs : List Char} (hpoint : cs.head? ≠ some '.') :
    cs ∈ afterWhole ↔ cs ∈ ending := by
  rw [afterWhole, Language.mem_add, mem_singleton_mul_iff]
  refine or_iff_left ?_
  rintro ⟨rest, -, rfl⟩
  exact hpoint rfl

lemma afterWhole_avoids_digits : Avoids afterWhole (Text.isDigit ·) := by
  intro c cs hcs
  by_cases hpoint : c = '.'
  · rw [hpoint]
    decide
  · exact ending_avoids_digits c cs ((mem_afterWhole_iff (by simpa using hpoint)).mp hcs)

lemma isSome_readDecimal?_iff (negative : Bool) {cs : List Char} :
    (readDecimal? negative cs).isSome ↔ cs ∈ decimal * ending := by
  rw [decimal_mul_ending, Language.mem_add, mem_digits_mul_iff afterWhole_avoids_digits,
    mem_singleton_mul_iff]
  simp only [mem_digits_mul_iff ending_avoids_digits]
  rw [readDecimal?]
  dsimp only
  -- no digit comes before a point at the beginning
  have hbegin (rest : List Char) (hcs : cs = '.' :: rest) : (takeDigits cs).1 = [] := by
    rw [hcs]
    rfl
  split
  case h_1 rest hrest =>
    rw [hrest, point_mem_afterWhole_iff, ← isSome_readExponent?_iff]
    by_cases hnil : (takeDigits cs).1 = []
    · obtain rfl : cs = '.' :: rest := by rw [← hrest, takeDigits_snd_of_nil hnil]
      by_cases hfraction : (takeDigits rest).1 = [] <;>
        simp [hnil, hfraction, isSome_readExponent?_iff]
    · have hcs (rest' : List Char) : cs ≠ '.' :: rest' := fun hcs => hnil (hbegin rest' hcs)
      simp [hnil, hcs]
  case h_2 rest hpoint =>
    have hother : (takeDigits cs).2.head? ≠ some '.' := by
      intro hhead
      obtain ⟨rest', hrest'⟩ := List.head?_eq_some_iff.mp hhead
      exact hpoint rest' hrest'
    rw [mem_afterWhole_iff hother, ← isSome_readExponent?_iff]
    by_cases hnil : (takeDigits cs).1 = []
    · have hcs (rest' : List Char) : cs ≠ '.' :: rest' := by
        rw [← takeDigits_snd_of_nil hnil]
        exact hpoint rest'
      simp [hnil, hcs]
    · have hcs (rest' : List Char) : cs ≠ '.' :: rest' := fun hcs => hnil (hbegin rest' hcs)
      simp [hnil, hcs]

/-! ### Numerals -/

/-- Without a sign, neither words nor decimals begin with one. -/
lemma unsigned_avoids_sign : Avoids (word + decimal * ending) (· ∈ ['+', '-']) := by
  intro c cs hcs hmem
  have hsigns : ∀ d ∈ ['+', '-'], d ≠ '.' ∧ d.toLower ∉ ['i', 'n'] := by simp
  obtain ⟨hpoint, hletter⟩ := hsigns c hmem
  rcases hcs with hword | hdecimal
  · have hwords : c.toLower :: cs.map Char.toLower ∈
        ["inf".toList, "infinity".toList, "nan".toList] := hword
    refine hletter ?_
    simp only [List.mem_cons, List.not_mem_nil, or_false] at hwords ⊢
    rcases hwords with h | h | h
    · exact .inl (List.cons.inj h).1
    · exact .inl (List.cons.inj h).1
    · exact .inr (List.cons.inj h).1
  · rw [decimal_mul_ending] at hdecimal
    rcases hdecimal with hdigits | hfraction
    · obtain ⟨ds, hds, rest, -, heq⟩ := Language.mem_mul.mp hdigits
      obtain ⟨d, ds, rfl⟩ := List.exists_cons_of_ne_nil hds.1
      obtain ⟨rfl, -⟩ := List.cons.inj heq
      exact digits_avoids_sign d ds hds hmem
    · obtain ⟨rest, -, heq⟩ := mem_singleton_mul_iff.mp hfraction
      exact hpoint (List.cons.inj heq).1

lemma mem_word_iff {cs : List Char} :
    cs ∈ word ↔ cs.map Char.toLower = "inf".toList ∨ cs.map Char.toLower = "infinity".toList ∨
      cs.map Char.toLower = "nan".toList := by
  show cs.map Char.toLower ∈ ["inf".toList, "infinity".toList, "nan".toList] ↔ _
  simp only [List.mem_cons, List.not_mem_nil, or_false]

/-- Reading finds a number in the numerals, and in nothing else. -/
lemma isSome_read?_iff {s : String} : (read? s).isSome ↔ s.toList ∈ Grammar.numeral := by
  rw [Grammar.numeral, ← ending, mem_sign_mul_iff unsigned_avoids_sign, Language.mem_add,
    ← isSome_readDecimal?_iff (takeSign s.toList).1, mem_word_iff, read?, readChars?]
  dsimp only
  split_ifs with hinf hnan
  · simp only [Bool.or_eq_true, decide_eq_true_eq] at hinf
    exact iff_of_true rfl (.inl (hinf.imp_right .inl))
  · exact iff_of_true rfl (.inl (.inr (.inr hnan)))
  · simp only [Bool.or_eq_true, decide_eq_true_eq, not_or] at hinf
    refine (or_iff_right ?_).symm
    rintro (hword | hword | hword)
    · exact hinf.1 hword
    · exact hinf.2 hword
    · exact hnan hword

/-- What is a plain numeral is a numeral. -/
lemma mem_numeral_of_isPlain {s : String} (h : IsPlain s) : s.toList ∈ Grammar.numeral := by
  obtain ⟨signs, ds, hsigns, hs, hne, hds⟩ := h
  have hsign : signs ∈ sign := by
    show signs = [] ∨ signs = ['+'] ∨ signs = ['-']
    simpa using hsigns
  have hdigits : ds ∈ digits := ⟨hne, fun c hc => isDigit_of_ascii (hds c hc)⟩
  have hwhole : ds ∈ decimal * ending := by
    have hmem := Language.append_mem_mul hdigits (show [] ∈ afterWhole from .inl nil_mem_ending)
    rw [List.append_nil] at hmem
    exact decimal_mul_ending ▸ .inl hmem
  rw [hs]
  exact Language.append_mem_mul hsign (.inr hwhole)

/-! ### The usual way to read -/

/-- The text without its underscores, each of which has to stand between two digits. The flag says
whether a digit comes before. -/
def ungrouped? : Bool → List Char → Option (List Char)
  | _, [] => some []
  | digit, c :: rest =>
    if c = '_' then
      if digit && rest.head?.any Text.isDigit then ungrouped? false rest else none
    else (ungrouped? (Text.isDigit c) rest).map (c :: ·)

/-- Read a numeral with blanks around it and underscores between its digits. -/
def readLoosely? (s : String) : Option Binary64 :=
  (ungrouped? false (unpadded s.toList)).bind readChars?

/-- What has blanks or underscores is no numeral. -/
lemma read?_eq_none_of_mem {s : String} {c : Char} (hmem : c ∈ s.toList)
    (hc : Text.isBlank c ∨ c = '_') : read? s = none := by
  by_contra hsome
  obtain ⟨x, hx⟩ := Option.ne_none_iff_exists'.mp hsome
  have hchar := read?_numeral hx c hmem
  rcases hc with hblank | rfl
  · rw [hchar.not_isBlank] at hblank
    cases hblank
  · have hmark : '_' ∉ ['_'] := hchar.not_mem (by decide)
    exact hmark (by simp)

lemma ungrouped?_eq_some {cs : List Char} (h : '_' ∉ cs) (digit : Bool) :
    ungrouped? digit cs = some cs := by
  induction cs generalizing digit with
  | nil => rfl
  | cons c cs ih =>
    obtain ⟨hc, hcs⟩ := not_or.mp (List.mem_cons.not.mp h)
    rw [ungrouped?, if_neg (Ne.symm hc), ih hcs]
    rfl

/-- Less is padding than is blank. -/
lemma unpadded_eq_self {cs : List Char} (h : Text.stripChars cs = cs) : unpadded cs = cs := by
  have hpadding {c : Char} (hc : Text.isBlank c = false) : isPadding c = false := by
    rw [isPadding, hc, Bool.false_and]
  have hhead : ∀ c ∈ cs.head?, isPadding c = false := fun c hc =>
    hpadding (Text.head?_stripChars_not_blank c (h.symm ▸ hc))
  have hlast : ∀ c ∈ cs.getLast?, isPadding c = false := fun c hc =>
    hpadding (Text.getLast?_stripChars_not_blank c (h.symm ▸ hc))
  have hleft : cs.dropWhile isPadding = cs := by
    cases cs with
    | nil => rfl
    | cons c rest => exact List.dropWhile_cons_of_neg (by simp [hhead c (by simp)])
  show (cs.dropWhile isPadding).rdropWhile isPadding = cs
  rw [hleft, List.rdropWhile_eq_self_iff]
  intro hne
  simp [hlast _ (List.getLast_mem_getLast? hne)]

/-- Where no blanks are at the ends and no underscores anywhere, the usual way to read will do. -/
lemma read?_eq_readLoosely? (s : String) :
    read? s =
      if s = "" ∨ Text.strip s ≠ s ∨ '_' ∈ s.toList then none else readLoosely? s := by
  split_ifs with h
  · by_contra hsome
    obtain ⟨x, hx⟩ := Option.ne_none_iff_exists'.mp hsome
    have hchars := read?_numeral hx
    rcases h with rfl | hstrip | hgroup
    · cases hx
    · refine hstrip (String.ext ?_)
      rw [Text.toList_strip]
      exact Text.stripChars_eq_self
        (fun c hc => (hchars c (List.mem_of_mem_head? hc)).not_isBlank)
        fun c hc => (hchars c (List.mem_of_mem_getLast? hc)).not_isBlank
    · exact hsome (read?_eq_none_of_mem hgroup (.inr rfl))
  · simp only [not_or, not_not] at h
    obtain ⟨-, hstrip, hgroup⟩ := h
    have hstrip : Text.stripChars s.toList = s.toList := by
      rw [← Text.toList_strip, hstrip]
    rw [readLoosely?, unpadded_eq_self hstrip, ungrouped?_eq_some hgroup]
    rfl

end Binary64

namespace Registry

open Binary64 Integer

/-! ### Validators of numbers -/

lemma decides_number :
    (Validator.leaf .number).Decides fun value => value.toList ∈ Grammar.numeral :=
  Validator.decides_of_require rfl rfl (fun _ => rfl) fun _ => isSome_read?_iff

lemma isPlain_of_run_integer {value : String}
    (h : (Validator.leaf .integer).run value = ⟨[], .ok .accepted⟩) : IsPlain value := by
  by_contra hplain
  rw [Validator.run, Leaf.outcome_eq, Leaf.complaint?, read_eq_none_iff.mpr hplain] at h
  cases h

/-- Numbers are read from the numerals and from nothing else. That is the usual way to read them,
with blanks and underscores ruled out beforehand. Every plain numeral of an integer is one, so what
is accepted as an integer is accepted as a number. -/
theorem build_number :
    (∀ s, (read? s).isSome ↔ s.toList ∈ Grammar.numeral) ∧
    (∀ s, read? s =
      if s = "" ∨ Text.strip s ≠ s ∨ '_' ∈ s.toList then none else readLoosely? s) ∧
    (∀ s, (∃ c ∈ s.toList, Text.isBlank c ∨ c = '_') → read? s = none) ∧
    (∀ s, IsPlain s → (read? s).isSome) ∧
    ∀ depth : Int, depth ≤ 10 →
      ∃ v w, build "integer" depth = .ok v ∧ build "number" depth = .ok w ∧
        w.Decides (fun value => value.toList ∈ Grammar.numeral) ∧
        ∀ value, v.run value = ⟨[], .ok .accepted⟩ → w.run value = ⟨[], .ok .accepted⟩ := by
  refine ⟨fun s => isSome_read?_iff, read?_eq_readLoosely?, ?_, ?_, fun depth hdepth => ?_⟩
  · rintro s ⟨c, hmem, hc⟩
    exact read?_eq_none_of_mem hmem hc
  · exact fun s hs => isSome_read?_iff.mpr (mem_numeral_of_isPlain hs)
  · refine ⟨_, _, build_fixed (by decide) rfl hdepth, build_fixed (by decide) rfl hdepth,
      decides_number, fun value hvalue => ?_⟩
    obtain ⟨o, hrun, ho⟩ := decides_number value
    have haccepted := ho.mpr (mem_numeral_of_isPlain (isPlain_of_run_integer hvalue))
    cases o with
    | accepted => exact hrun
    | rejected why => cases haccepted

/-- Words in any case, points at either end, digits of other scripts, and an exponent that leads out
of the range; no digits, a second point, an exponent without digits, and what is read in the usual
way but not here. -/
theorem build_number_words :
    (10 : Int) ≤ 10 ∧ IsPlain "-007" ∧ (∃ c ∈ "1_0".toList, Text.isBlank c ∨ c = '_') ∧
    (read? "-007").isSome ∧ read? "1_0" = none ∧
    (∀ s ∈ ["-iNF", "+Infinity", "NaN", ".5", "5.", "-0.e+7", "\u0663.\u0664E-\u0665", "1e400"],
      s.toList ∈ Grammar.numeral) ∧
    (∀ s ∈ ["", ".", "+", "e5", "1e", "1e+", "1.2.3", "infinit", "0x1F", "1 2", "+-1"],
      s.toList ∉ Grammar.numeral ∧ readLoosely? s = none) ∧
    (∀ s ∈ [" 1", "1\n", "\u30001", "1_0", "1e1_0"],
      read? s = none ∧ (readLoosely? s).isSome) ∧
    ∃ w, build "number" 10 = .ok w ∧ w.run "-007" = ⟨[], .ok .accepted⟩ := by
  obtain ⟨hgrammar, -, hothers, hplain, hbuild⟩ := build_number
  obtain ⟨v, w, hv, hw, -, hrun⟩ := hbuild 10 le_rfl
  have hinteger : IsPlain "-007" := ⟨['-'], ['0', '0', '7'], by simp, rfl, by simp, by simp⟩
  have hgroup : ∃ c ∈ "1_0".toList, Text.isBlank c ∨ c = '_' := ⟨'_', by simp, .inr rfl⟩
  refine ⟨le_rfl, hinteger, hgroup, hplain _ hinteger, hothers _ hgroup, fun s hs => ?_,
    fun s hs => ?_, ?_, w, hw, ?_⟩
  · refine (hgrammar s).mp ?_
    revert s
    decide +kernel
  · rw [← hgrammar]
    revert s
    decide +kernel
  · decide +kernel
  · have hleaf : build "integer" 10 = .ok (.leaf .integer) := build_fixed (by decide) rfl le_rfl
    obtain rfl := Except.ok.inj (hleaf.symm.trans hv)
    exact hrun _ rfl

end Registry

end ValueSpec
