import ValueSpec.Proofs.Faults

namespace ValueSpec

open Build Registry

/-! ### Errors that blame a spec -/

/-- An error says that a spec is not valid for a reason, and wraps the error with this reason. -/
structure SpecError.Blames (outer : SpecError) (spec reason : String) (e : SpecError) : Prop where
  code : outer.code = .invalidValidator
  params : outer.params = [("spec", .text spec), ("reason", .text reason)]
  chain : outer.chain.map SpecError.code = [.invalidValidator, e.code]
  root : outer.root = e

namespace SpecError

variable {spec reason : String} {e : SpecError}

lemma chain_of_isRoot (h : e.isRoot) : e.chain = [e] := by
  unfold isRoot at h
  split at h <;> simp_all [chain]

/-- The error of a list blames the spec in it. -/
lemma blames_malformed (h : e.isPrimary) :
    (malformed spec (.wrapped reason) (some e)).Blames spec reason e := by
  have hroot : e.isRoot := ((Bool.and_eq_true _ _).mp h).2
  refine ⟨rfl, rfl, ?_, ?_⟩
  · rw [chain, chain_of_isRoot hroot]
    rfl
  · rw [root, root_of_isRoot hroot]

/-- The message of a malformed spec. The spec and what is wrong with it are put in as they are. -/
lemma text_malformed_english (spec : String) (what : Malformation) (cause : Option SpecError) :
    (malformed spec what cause).text .english =
      .ok ("invalid validator '" ++ spec ++ "': " ++ what.reason) := by
  have hpieces : Template.pieces Code.invalidValidator.english.toList =
      "invalid validator '".toList.map .literal ++ .field { path := "spec".toList } ::
        ("': ".toList.map .literal ++ [.field { path := "reason".toList }]) := by
    decide +kernel
  have hspec : Catalog.english.nameText (malformed spec what cause).params
      "spec".toList = spec.toList := Catalog.nameText_of_text rfl (by decide)
  have hreason : Catalog.english.nameText (malformed spec what cause).params
      "reason".toList = what.reason.toList := Catalog.nameText_of_text rfl (by decide)
  have hshort : (malformed spec what cause).params.integers.all Integer.isShort :=
    isShort_params rfl
  rw [text, code, Catalog.format_english_eq _ hshort, hpieces]
  simp only [List.map_append, List.map_cons, List.flatten_append, List.flatten_cons,
    Template.flatten_fill_literal, Template.Piece.fill, hspec, hreason]
  rw [Except.ok.injEq, String.ext_iff]
  simp

/-- The report of the error of a list. -/
lemma toReport_malformed {cat : Catalog} {text : String} (h : e.isPrimary)
    (htext : (malformed spec (.wrapped reason) (some e)).text cat = .ok text) (origin : String) :
    (malformed spec (.wrapped reason) (some e)).toReport cat origin =
      .ok { code := .invalidValidator, message := text, origin
            metadata := [("spec", .text spec), ("root_code", .text e.code.name),
              ("reason", .text reason)]
            cause := some (malformed spec (.wrapped reason) (some e)) } := by
  have hroot : (malformed spec (.wrapped reason) (some e)).root = e := (blames_malformed h).root
  have hclash := clash?_params (e := malformed spec (.wrapped reason) (some e)) rfl
  rw [toReport, htext]
  dsimp only [bind, Except.bind]
  rw [hclash, hroot]
  rfl

end SpecError

/-! ### One spec -/

namespace Suite

variable {cat : Catalog} {spec : String}

/-- What becomes no validator and is no fault is refused with a message. -/
lemma exists_refused (hfault : ∀ f, published cat (build spec 0) ≠ .error (.fault f))
    (hbuild : ∀ v, build spec 0 ≠ .ok v) :
    ∃ e reason, build spec 0 = .error (.spec e) ∧ e.isPrimary ∧ e.text cat = .ok reason := by
  have hprimary := buildAt_primary (levels 0) spec
  cases h : build spec 0 with
  | ok v => exact absurd h (hbuild v)
  | error b =>
    rw [h] at hfault
    cases b with
    | fault f => exact absurd rfl (hfault f)
    | spec e =>
      cases htext : e.text cat with
      | error f =>
        rw [published, htext] at hfault
        exact absurd rfl (hfault f)
      | ok reason => exact ⟨e, reason, rfl, hprimary _ h, htext⟩

/-- A spec that is refused is blamed for it. -/
lemma blamed_of_refused {e : SpecError} {reason text : String}
    (hbuild : build spec 0 = .error (.spec e)) (hreason : e.text cat = .ok reason)
    (htext : (SpecError.malformed spec (.wrapped reason) (some e)).text cat = .ok text) :
    blamed cat spec = .error (.spec (.malformed spec (.wrapped reason) (some e))) := by
  rw [blamed, parse_of_refused hbuild hreason, blaming]
  dsimp only
  rw [blame, hreason]
  dsimp only
  rw [htext]

end Suite

/-! ### Lists of specs -/

/-- Building several things succeeds if building each of them does. -/
lemma Build.exists_mapM_eq_ok {α β : Type} {f : α → Build β} {as : List α}
    (h : ∀ a ∈ as, ∃ b, f a = .ok b) :
    ∃ bs, List.Forall₂ (fun a b => f a = .ok b) as bs ∧ as.mapM f = .ok bs := by
  obtain ⟨bs, hbs⟩ := exists_forall₂_iff.mpr h
  exact ⟨bs, hbs, mapM_eq_ok_iff.mpr hbs⟩

namespace Suite

/-- A list of specs that are blank or become validators becomes the list of these validators. In
any other list the first spec that is neither is blamed, for the error it is refused with. A
catalog that cannot word the blame lets the list fail otherwise; English always can. -/
theorem parseAll_all_or_blamed (cat : Catalog) {specs : List String}
    (hspecs : ∀ s ∈ specs, ∀ f, published cat (build s 0) ≠ .error (.fault f)) :
    ((∀ s ∈ specs, Text.isBlankText s ∨ ∃ v, build s 0 = .ok v) →
      ∃ vs, List.Forall₂ (fun s v => build s 0 = .ok v)
          (specs.filter fun s => !Text.isBlankText s) vs ∧
        (parseAll cat specs).result = .ok vs ∧ (tryParse cat specs).result = .ok (.ok vs)) ∧
    ∀ before spec after, specs = before ++ spec :: after →
      (∀ s ∈ before, Text.isBlankText s ∨ ∃ v, build s 0 = .ok v) →
      Text.isBlankText spec = false → (∀ v, build spec 0 ≠ .ok v) →
      ∃ e reason outer, build spec 0 = .error (.spec e) ∧ e.text cat = .ok reason ∧
        outer.Blames spec reason e ∧
        outer.text .english = .ok ("invalid validator '" ++ spec ++ "': " ++ reason) ∧
        ∀ text, outer.text cat = .ok text →
          (parseAll cat specs).result = .error (.spec outer) ∧
          (tryParse cat specs).result =
            .ok (.error
              { code := .invalidValidator, message := text, origin := "parse_validators"
                metadata := [("spec", .text spec), ("root_code", .text e.code.name),
                  ("reason", .text reason)]
                cause := some outer }) := by
  constructor
  · intro hall
    have hnonblank : ∀ s ∈ specs.filter fun s => !Text.isBlankText s, ∃ v, build s 0 = .ok v := by
      intro s hs
      rw [List.mem_filter] at hs
      exact (hall s hs.1).resolve_left (by simpa using hs.2)
    obtain ⟨vs, hforall, hvs⟩ := exists_mapM_eq_ok hnonblank
    have hparse : (parseAll cat specs).result = .ok vs := (parseAll_ok_iff cat).mpr hvs
    refine ⟨vs, hforall, hparse, ?_⟩
    rw [tryParse, hparse]
    rfl
  · rintro before spec after rfl hbefore hblank hbuild
    obtain ⟨e, reason, he, hprimary, hreason⟩ := exists_refused (hspecs spec (by simp)) hbuild
    refine ⟨e, reason, .malformed spec (.wrapped reason) (some e), he, hreason,
      SpecError.blames_malformed hprimary, SpecError.text_malformed_english spec _ _, ?_⟩
    intro text htext
    -- what comes before the spec builds, so that the list gets to it and no further
    have hparse : (parseAll cat (before ++ spec :: after)).result =
        .error (.spec (.malformed spec (.wrapped reason) (some e))) := by
      rw [parseAll_result, List.filter_append, List.filter_cons_of_pos (by simp [hblank]),
        mapM_error_iff]
      refine ⟨_, _, _, rfl, ?_, blamed_of_refused he hreason htext⟩
      intro s hs
      rw [List.mem_filter] at hs
      obtain ⟨v, hv⟩ := (hbefore s hs.1).resolve_left (by simpa using hs.2)
      exact ⟨v, (blamed_ok_iff cat).mpr hv⟩
    refine ⟨hparse, ?_⟩
    rw [tryParse, hparse, reported, SpecError.toReport_malformed hprimary htext]
    rfl

/-- A list with a blank spec, and one in which a spec with a brace and blanks is blamed. -/
theorem parseAll_all_or_blamed_brace :
    (parseAll .english ["email", " "]).result = .ok [.leaf .email] ∧
    ∃ outer : SpecError,
      outer.Blames " minlength(\x7b5 "
        "invalid validator 'minlength(\x7b5': missing closing parenthesis"
        (.malformed "minlength(\x7b5" .missingClose none) ∧
      (parseAll .english [" ", "email", " minlength(\x7b5 ", "()"]).result =
        .error (.spec outer) := by
  have hemail : build "email" 0 = .ok (.leaf .email) := rfl
  have hblank : build " " 0 = .error (.spec (.malformed "" .missingName none)) := rfl
  have hbrace : build " minlength(\x7b5 " 0 =
      .error (.spec (.malformed "minlength(\x7b5" .missingClose none)) := rfl
  have hnameless : build "()" 0 = .error (.spec (.malformed "()" .missingName none)) := rfl
  have hspace : Text.isBlankText " " = true := rfl
  constructor
  · have hspecs : ∀ s ∈ ["email", " "], ∀ f,
        published .english (build s 0) ≠ .error (.fault f) := by
      simp only [published_build]
      simp [hemail, hblank]
    have hall : ∀ s ∈ ["email", " "], Text.isBlankText s ∨ ∃ v, build s 0 = .ok v := by
      simp [hemail, hspace]
    obtain ⟨vs, hforall, hparse, -⟩ := (parseAll_all_or_blamed .english hspecs).1 hall
    have hvs : List.Forall₂ (fun s v => build s 0 = .ok v) ["email"] vs := hforall
    rcases hvs with _ | ⟨hv, _ | _⟩
    rw [hparse, ← Except.ok.inj (hemail.symm.trans hv)]
  · have hspecs : ∀ s ∈ [" ", "email", " minlength(\x7b5 ", "()"], ∀ f,
        published .english (build s 0) ≠ .error (.fault f) := by
      simp only [published_build]
      simp [hemail, hblank, hbrace, hnameless]
    have hbefore : ∀ s ∈ [" ", "email"], Text.isBlankText s ∨ ∃ v, build s 0 = .ok v := by
      simp [hemail, hspace]
    obtain ⟨e, reason, outer, he, hreason, hblames, houter, hparse⟩ :=
      (parseAll_all_or_blamed .english hspecs).2 [" ", "email"] _ ["()"] rfl hbefore
        (by decide) (by simp [hbrace])
    obtain rfl : SpecError.malformed "minlength(\x7b5" .missingClose none = e := by
      simpa [hbrace] using he
    rw [SpecError.text_malformed_english] at hreason
    obtain rfl := Except.ok.inj hreason
    exact ⟨outer, hblames, (hparse _ houter).1⟩

end Suite

end ValueSpec
