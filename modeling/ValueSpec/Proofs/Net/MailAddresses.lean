import ValueSpec.Proofs.Pattern.Languages
import ValueSpec.Proofs.Ranges

namespace ValueSpec

namespace Net

/-! ### Domains -/

/-- A domain is cut into a host and letters at its last point. The host may be empty. -/
structure Cuts (domain host top : List Char) : Prop where
  whole : domain = host ++ '.' :: top
  chars : ∀ c ∈ host, isDomainChar c
  long : 2 ≤ top.length
  letters : ∀ c ∈ top, c.isAlpha

lemma isDomainChar_of_isAlpha {c : Char} (h : c.isAlpha) : isDomainChar c := by
  simp [isDomainChar, Char.isAlphanum, h]

lemma not_cuts_nil {host top : List Char} : ¬ Cuts [] host top := by
  intro h
  simpa using h.whole

lemma cuts_cons_iff {c : Char} {cs : List Char} :
    (∃ host top, Cuts (c :: cs) host top) ↔
      (c = '.' ∧ 2 ≤ cs.length ∧ ∀ d ∈ cs, d.isAlpha) ∨
        isDomainChar c ∧ ∃ host top, Cuts cs host top := by
  constructor
  · rintro ⟨host, top, h⟩
    cases host with
    | nil =>
      obtain ⟨rfl, rfl⟩ := List.cons.inj h.whole
      exact .inl ⟨rfl, h.long, h.letters⟩
    | cons d host =>
      obtain ⟨rfl, hrest⟩ := List.cons.inj h.whole
      obtain ⟨hd, hhost⟩ := List.forall_mem_cons.mp h.chars
      exact .inr ⟨hd, host, top, hrest, hhost, h.long, h.letters⟩
  · rintro (⟨rfl, hlong, hletters⟩ | ⟨hc, host, top, h⟩)
    · exact ⟨[], cs, rfl, by simp, hlong, hletters⟩
    · exact ⟨c :: host, top, by rw [h.whole]; rfl, List.forall_mem_cons.mpr ⟨hc, h.chars⟩, h.long,
        h.letters⟩

namespace DomainPlace

/-- What may stand from a place on to the end of the domain. Letters after a point may end the
domain, or another point comes. -/
def Completes : DomainPlace → List Char → Prop
  | start, cs => ∃ host ≠ [], ∃ top, Cuts cs host top
  | inside, cs => ∃ host top, Cuts cs host top
  | letters n, cs => (2 ≤ n + cs.length ∧ ∀ c ∈ cs, c.isAlpha) ∨ ∃ host top, Cuts cs host top

lemma completes_start_cons_iff {c : Char} {cs : List Char} :
    start.Completes (c :: cs) ↔ isDomainChar c ∧ inside.Completes cs := by
  constructor
  · rintro ⟨host, hne, top, h⟩
    obtain ⟨d, host, rfl⟩ := List.exists_cons_of_ne_nil hne
    obtain ⟨rfl, hrest⟩ := List.cons.inj h.whole
    obtain ⟨hc, hhost⟩ := List.forall_mem_cons.mp h.chars
    exact ⟨hc, host, top, hrest, hhost, h.long, h.letters⟩
  · rintro ⟨hc, host, top, h⟩
    exact ⟨c :: host, List.cons_ne_nil _ _, top, by rw [h.whole]; rfl,
      List.forall_mem_cons.mpr ⟨hc, h.chars⟩, h.long, h.letters⟩

/-- What completes a domain goes on from the next place. -/
lemma completes_cons_iff {p : DomainPlace} {c : Char} {cs : List Char} :
    p.Completes (c :: cs) ↔ ∃ q, p.step? c = some q ∧ q.Completes cs := by
  have hpoint : isDomainChar '.' := rfl
  by_cases hc : isDomainChar c
  · cases p with
    | start => simp [step?, hc, completes_start_cons_iff]
    | inside =>
      by_cases hc' : c = '.'
      · simp [step?, Completes, hc', hpoint, cuts_cons_iff]
      · simp [step?, Completes, hc, hc', cuts_cons_iff]
    | letters n =>
      by_cases hc' : c = '.'
      · simp [step?, Completes, hc', hpoint, cuts_cons_iff]
      · by_cases halpha : c.isAlpha
        · have hlength : 2 ≤ min (n + 1) 2 + cs.length ↔ 2 ≤ n + (cs.length + 1) := by omega
          simp [step?, Completes, hc, hc', halpha, hlength, cuts_cons_iff]
        · simp [step?, Completes, hc, hc', halpha, cuts_cons_iff]
  · have hletter : ¬ c.isAlpha := fun halpha => hc (isDomainChar_of_isAlpha halpha)
    have hother : c ≠ '.' := fun heq => hc (heq ▸ hpoint)
    cases p with
    | start => simp [step?, hc, completes_start_cons_iff]
    | inside => simp [step?, Completes, hc, hother, cuts_cons_iff]
    | letters n => simp [step?, Completes, hc, hother, hletter, cuts_cons_iff]

lemma small_of_step {p q : DomainPlace} {c : Char} (h : p.step? c = some q) (n : Nat)
    (hq : q = letters n) : n ≤ 2 := by
  cases p <;> grind [step?]

/-- From a place on the pass succeeds if what follows completes the domain. -/
lemma accepts_iff {p : DomainPlace} (hp : ∀ n, p = letters n → n ≤ 2) {cs : List Char} :
    p.accepts cs ↔ p.Completes cs := by
  induction cs generalizing p with
  | nil =>
    cases p with
    | start => simp [accepts, Completes, not_cuts_nil]
    | inside => simp [accepts, Completes, not_cuts_nil]
    | letters n =>
      have hn : n = 2 ↔ 2 ≤ n := by
        have := hp n rfl
        omega
      simp [accepts, Completes, not_cuts_nil, hn]
  | cons c cs ih =>
    rw [accepts, completes_cons_iff]
    cases hstep : p.step? c with
    | none => simp
    | some q => simpa using ih (small_of_step hstep)

end DomainPlace

/-! ### Addresses -/

/-- The parts of a mail address: what stands before the at sign, what stands after it up to the last
point, and what stands after that point. -/
structure MailParts (user host top : List Char) : Prop where
  user_nonempty : user ≠ []
  user_chars : ∀ c ∈ user, c.isAlphanum ∨ c ∈ ['.', '_', '%', '+', '-']
  host_nonempty : host ≠ []
  host_chars : ∀ c ∈ host, c.isAlphanum ∨ c ∈ ['.', '-']
  top_long : 2 ≤ top.length
  top_letters : ∀ c ∈ top, c.isAlpha

/-- A text with one at sign, and a last point after it, between the parts of a mail address. -/
def IsMailAddress (text : List Char) : Prop :=
  text.count '@' = 1 ∧ ∃ user host top, text = user ++ '@' :: (host ++ '.' :: top) ∧ '.' ∉ top ∧
    MailParts user host top

lemma isLocalChar_iff {c : Char} :
    isLocalChar c ↔ c.isAlphanum ∨ c ∈ ['.', '_', '%', '+', '-'] := by
  simp [isLocalChar, or_assoc]

lemma isDomainChar_iff {c : Char} : isDomainChar c ↔ c.isAlphanum ∨ c ∈ ['.', '-'] := by
  simp [isDomainChar, or_assoc]

namespace MailParts

variable {user host top : List Char}

lemma point_not_mem (h : MailParts user host top) : '.' ∉ top := by
  intro hmem
  cases h.top_letters '.' hmem

/-- No part has an at sign, and so the one between them is the only one. -/
lemma count_eq_one (h : MailParts user host top) :
    (user ++ '@' :: (host ++ '.' :: top)).count '@' = 1 := by
  have huser : '@' ∉ user := fun hmem => by simpa using h.user_chars '@' hmem
  have hhost : '@' ∉ host := fun hmem => by simpa using h.host_chars '@' hmem
  have htop : '@' ∉ top := fun hmem => by simpa using h.top_letters '@' hmem
  simp [List.count_eq_zero.mpr huser, List.count_eq_zero.mpr hhost, List.count_eq_zero.mpr htop]

end MailParts

/-- The at sign and the last point need not be asked for, as the parts have none. -/
lemma isMailAddress_iff {text : List Char} :
    IsMailAddress text ↔
      ∃ user host top, text = user ++ '@' :: (host ++ '.' :: top) ∧ MailParts user host top := by
  constructor
  · rintro ⟨-, user, host, top, htext, -, h⟩
    exact ⟨user, host, top, htext, h⟩
  · rintro ⟨user, host, top, rfl, h⟩
    exact ⟨h.count_eq_one, user, host, top, rfl, h.point_not_mem, h⟩

lemma acceptsMail_iff {begun : Bool} {text : List Char} :
    acceptsMail begun text ↔ ∃ user domain, text = user ++ '@' :: domain ∧
      (begun ∨ user ≠ []) ∧ (∀ c ∈ user, isLocalChar c) ∧ DomainPlace.start.accepts domain := by
  -- behind the first character the user has begun, which the induction hypothesis is used with
  induction text generalizing begun with
  | nil => simp [acceptsMail]
  | cons c text ih =>
    rw [acceptsMail]
    constructor
    · intro h
      split_ifs at h with hc
      · obtain ⟨hbegun, hdomain⟩ := (Bool.and_eq_true _ _).mp h
        exact ⟨[], text, by rw [hc]; rfl, .inl hbegun, by simp, hdomain⟩
      · obtain ⟨hlocal, hrest⟩ := (Bool.and_eq_true _ _).mp h
        obtain ⟨user, domain, rfl, -, huser, hdomain⟩ := ih.mp hrest
        exact ⟨c :: user, domain, rfl, .inr (List.cons_ne_nil _ _),
          List.forall_mem_cons.mpr ⟨hlocal, huser⟩, hdomain⟩
    · rintro ⟨user, domain, htext, hbegun, huser, hdomain⟩
      cases user with
      | nil =>
        obtain ⟨rfl, rfl⟩ := List.cons.inj htext
        simpa [hdomain] using hbegun
      | cons d user =>
        obtain ⟨rfl, rfl⟩ := List.cons.inj htext
        obtain ⟨hlocal, huser⟩ := List.forall_mem_cons.mp huser
        have hsign : c ≠ '@' := by
          rintro rfl
          cases hlocal
        rw [if_neg hsign, hlocal, ih.mpr ⟨user, domain, rfl, .inl rfl, huser, hdomain⟩]
        rfl

/-- The pass over a text finds the parts of a mail address. -/
lemma isEmail_iff {text : List Char} : isEmail text ↔ IsMailAddress text := by
  have hstart {domain : List Char} :
      DomainPlace.start.accepts domain ↔ ∃ host ≠ [], ∃ top, Cuts domain host top :=
    DomainPlace.accepts_iff (by simp)
  rw [isEmail, acceptsMail_iff, isMailAddress_iff]
  constructor
  · rintro ⟨user, domain, rfl, hne, huser, haccepts⟩
    obtain ⟨host, hhost, top, h⟩ := hstart.mp haccepts
    exact ⟨user, host, top, by rw [h.whole], hne.resolve_left nofun,
      fun c hc => isLocalChar_iff.mp (huser c hc), hhost,
      fun c hc => isDomainChar_iff.mp (h.chars c hc), h.long, h.letters⟩
  · rintro ⟨user, host, top, rfl, h⟩
    exact ⟨user, _, rfl, .inr h.user_nonempty,
      fun c hc => isLocalChar_iff.mpr (h.user_chars c hc),
      hstart.mpr ⟨host, h.host_nonempty, top, rfl,
        fun c hc => isDomainChar_iff.mpr (h.host_chars c hc), h.top_long, h.top_letters⟩⟩

instance {text : List Char} : Decidable (IsMailAddress text) := decidable_of_iff _ isEmail_iff

end Net

namespace Pattern

/-! ### The pattern of a mail address -/

namespace MailAddress

/-- A mail address, as a pattern is written. -/
def text : String := "[a-zA-Z0-9._%+-]+@[a-zA-Z0-9.-]+\\.[a-zA-Z]\x7b2,\x7d"

/-- A character of a local part. -/
def user : Regex :=
  .set false [.range 97 122, .range 65 90, .range 48 57, .point 46, .point 95, .point 37, .point 43,
    .point 45] .exact

/-- A character of a domain. -/
def host : Regex :=
  .set false [.range 97 122, .range 65 90, .range 48 57, .point 46, .point 45] .exact

/-- A letter. -/
def top : Regex := .set false [.range 97 122, .range 65 90] .exact

/-- Characters of a local part, an at sign, characters of a domain, a point and letters. -/
def parts : List Regex :=
  [.loop .greedy 1 none user, .literal false '@'.toNat .exact, .loop .greedy 1 none host,
    .literal false '.'.toNat .exact, .loop .greedy 2 none top]

lemma compile_text : (compile ("^" ++ text ++ "$")).toOption.map (·.regex) =
    some (Regex.ofList ([.anchor .textStart] ++ parts ++ [.anchor .textEnd])) := by
  decide +kernel

lemma user_language : user.language = single Net.isLocalChar := by
  refine Regex.language_set fun c => ?_
  simp [holds_range, holds_point, Net.isLocalChar, isAlphanum_iff_toNat, ← Char.toNat_inj, or_assoc]

lemma host_language : host.language = single Net.isDomainChar := by
  refine Regex.language_set fun c => ?_
  simp [holds_range, holds_point, Net.isDomainChar, isAlphanum_iff_toNat, ← Char.toNat_inj,
    or_assoc]

lemma top_language : top.language = single Char.isAlpha := by
  refine Regex.language_set fun c => ?_
  simp [holds_range, isAlpha_iff_toNat]

/-- The pattern of a mail address matches parts with an at sign and a point between them. -/
lemma mem_parts {cs : List Char} :
    cs ∈ (Regex.ofList parts).language ↔ Net.IsMailAddress cs := by
  rw [Net.isMailAddress_iff]
  simp only [parts, Regex.ofList, Regex.mem_language_seq, Regex.mem_language_literal,
    Regex.mem_language_loop user_language, Regex.mem_language_loop host_language,
    Regex.mem_language_loop top_language, Net.isLocalChar_iff, Net.isDomainChar_iff]
  constructor
  · rintro ⟨user, ⟨huser, huserChars⟩, _, ⟨_, rfl, _, ⟨host, ⟨hhost, hhostChars⟩, _,
      ⟨_, rfl, top, ⟨htop, hletters⟩, rfl⟩, rfl⟩, rfl⟩, rfl⟩
    exact ⟨user, host, top, rfl, List.length_pos_iff.mp huser, huserChars,
      List.length_pos_iff.mp hhost, hhostChars, htop, hletters⟩
  · rintro ⟨user, host, top, rfl, h⟩
    exact ⟨user, ⟨List.length_pos_iff.mpr h.user_nonempty, h.user_chars⟩, _, ⟨['@'], rfl, _,
      ⟨host, ⟨List.length_pos_iff.mpr h.host_nonempty, h.host_chars⟩, _,
        ⟨['.'], rfl, top, ⟨h.top_long, h.top_letters⟩, rfl⟩, rfl⟩, rfl⟩, rfl⟩

end MailAddress

end Pattern

namespace Registry

/-! ### Validators of mail addresses -/

lemma run_email (value : String) :
    (Validator.leaf .email).run value = ⟨[], .ok (
      if Net.IsMailAddress value.toList then .accepted
      else .rejected { code := .invalidEmail, value, validator := "email" })⟩ := by
  rw [Validator.run, Leaf.outcome_eq, Leaf.complaint?]
  split_ifs with haddress
  · rw [Net.isEmail_iff.mpr haddress]
    rfl
  · rw [Leaf.require_of_not (Net.isEmail_iff.not.mpr haddress)]
    rfl

/-- The validator of mail addresses accepts a text if its one at sign and the last point after that
stand between parts that a mail address may have, and rejects it otherwise. The pattern that mail
addresses can be written as decides the same. -/
theorem build_email {depth : Int} (hdepth : depth ≤ 10) :
    ∃ v, build "email" depth = .ok v ∧
      (∀ value,
        (v.run value = ⟨[], .ok .accepted⟩ ↔ Net.IsMailAddress value.toList) ∧
        (v.run value = ⟨[], .ok (.rejected
            { code := .invalidEmail, value, validator := v.name })⟩ ↔
          ¬ Net.IsMailAddress value.toList)) ∧
      ∃ w, build ("regex(^" ++ Pattern.MailAddress.text ++ "$)") depth = .ok w ∧
        w.Decides fun value => Net.IsMailAddress value.toList := by
  have hname : (Validator.leaf .email).name = "email" := rfl
  obtain ⟨w, hw, hdecides⟩ := build_pinned Pattern.MailAddress.compile_text (by decide) hdepth
  refine ⟨_, build_fixed (by decide) rfl hdepth, fun value => ?_, w, hw,
    hdecides.congr fun value => Pattern.MailAddress.mem_parts⟩
  rw [run_email, hname]
  split_ifs with haddress <;> simp [haddress]

/-- Points in a row and hyphens around the last one, two at signs, a top of one letter or with a
digit, an empty host, and a line end. -/
theorem build_email_points :
    (10 : Int) ≤ 10 ∧ ∃ v, build "email" 10 = .ok v ∧
      (∀ value ∈ ["a@b.cd", ".+%_-@-..x-.COM", "a@b.c.de", "a@.-.1.xy"],
        v.run value = ⟨[], .ok .accepted⟩) ∧
      ∀ value ∈ ["", "@b.cd", "a@.cd", "a@b.c", "a@b.cd.e", "a@b.c1", "a@b@c.de", "a b@c.de",
          "a@b.cd\n", "a@b.cd."],
        v.run value = ⟨[], .ok (.rejected
          { code := .invalidEmail, value, validator := v.name })⟩ := by
  obtain ⟨v, hv, hrun, -⟩ := build_email (show (10 : Int) ≤ 10 from le_rfl)
  refine ⟨le_rfl, v, hv, fun value hvalue => ?_, fun value hvalue => ?_⟩
  · refine (hrun value).1.mpr ?_
    revert value
    decide
  · refine (hrun value).2.mpr ?_
    revert value
    decide

end Registry

end ValueSpec
