import ValueSpec.Proofs.Building
import ValueSpec.Suite

namespace ValueSpec

open Build Registry

lemma Build.published_ok_iff {α : Type} {cat : Catalog} {r : Build α} {a : α} :
    r.published cat = .ok a ↔ r = .ok a := by
  rcases r with (e | f) | b
  · rw [published]
    cases e.text cat <;> simp
  · simp [published]
  · simp [published]

/-! ### Suites -/

namespace Suite

variable (cat : Catalog)

/-- A spec that is read becomes what is built of it. -/
lemma parse_result (spec : String) : (parse cat spec).result = published cat (build spec 0) := by
  unfold parse published
  rcases build spec 0 with (e | f) | v
  · dsimp only
    cases e.text cat <;> rfl
  · rfl
  · rfl

/-- A spec that is refused for a reason that can be worded leaves one event. -/
lemma parse_of_refused {cat : Catalog} {spec reason : String} {e : SpecError}
    (hbuild : build spec 0 = .error (.spec e)) (hreason : e.text cat = .ok reason) :
    parse cat spec = ⟨[Log.specRejected spec e.root.code reason], .error (.spec e)⟩ := by
  rw [parse, hbuild]
  dsimp only
  rw [hreason]

/-- What a spec becomes in a list; an error of it names the spec. -/
def blamed (spec : String) : Build Validator := (blaming cat spec (parse cat spec)).result

lemma blamed_ok_iff {spec : String} {v : Validator} :
    blamed cat spec = .ok v ↔ build spec 0 = .ok v := by
  have hparse : (parse cat spec).result = .ok v ↔ build spec 0 = .ok v := by
    rw [parse_result, published_ok_iff]
  rw [← hparse, blamed]
  rcases parse cat spec with ⟨trace, (e | f) | w⟩ <;> simp [blaming]

/-- A list of specs becomes what its parts become that are not blank. -/
lemma parseAll_result (specs : List String) :
    (parseAll cat specs).result =
      (specs.filter fun s => !Text.isBlankText s).mapM (blamed cat) := by
  induction specs with
  | nil => rfl
  | cons spec rest ih =>
    rw [parseAll]
    cases hblank : Text.isBlankText spec with
    | true => simpa [hblank] using ih
    | false =>
      have hfilter : (spec :: rest).filter (fun s => !Text.isBlankText s) =
          spec :: rest.filter fun s => !Text.isBlankText s := by
        simp [hblank]
      rw [hfilter, List.mapM_cons, ← ih, if_neg (by simp), Traced.result_bind]
      simp only [Traced.result_bind]
      rfl

/-- A list of specs becomes a suite if each of them that is not blank becomes a validator. -/
theorem parseAll_ok_iff {specs : List String} {vs : List Validator} :
    (parseAll cat specs).result = .ok vs ↔
      (specs.filter fun s => !Text.isBlankText s).mapM (build · 0) = .ok vs := by
  rw [parseAll_result]
  exact mapM_ok_congr fun spec v => blamed_ok_iff cat

end Suite

/-! ### Conjunctions -/

/-- A suite and a conjunction of the same validators say the same of every value. -/
lemma checkAll_eq_run (value : String) (vs : List Validator) :
    checkAll value vs = (Validator.all vs).run value := by
  rw [Validator.run]
  induction vs with
  | nil => rfl
  | cons v vs ih => rw [checkAll, Validator.runAll, ih]

lemma not_isBlankText_of_mem_splitArguments {t s : String} (h : s ∈ splitArguments t) :
    Text.isBlankText s = false := by
  obtain ⟨cs, hcs, hs⟩ := List.mem_filterMap.mp h
  obtain ⟨gs, -, rfl⟩ := List.mem_map.mp hcs
  split_ifs at hs with hempty
  obtain rfl := Option.some.inj hs
  rw [Text.isBlankText, String.toList_ofList, ← Bool.not_eq_true, List.all_eq_true,
    ← Text.stripChars_eq_nil_iff, Text.stripChars_stripChars]
  simpa using hempty

/-- A call of `all` builds its arguments one level deeper. -/
lemma build_all {t : String} (hne : splitArguments t ≠ []) {depth : Int} (hdepth : depth ≤ 10) :
    build ("all(" ++ t ++ ")") depth =
      (splitArguments t).mapM (build · (depth + 1)) >>= fun vs => pure (.all vs) := by
  have hlookup : lookup? "all" = some { name := "all", form := .specs .all } :=
    lookup?_of_isLower (by decide)
  exact (build_call hlookup hdepth t).trans (Entry.make_specs rfl _ hne)

/-- A text without backslashes that lists specs becomes a suite if all its parts become validators
on the level of the list. -/
lemma Suite.parseList_ok_iff (cat : Catalog) {t : String} (hescape : '\\' ∉ t.toList)
    {vs : List Validator} :
    (parseList cat t).result = .ok vs ↔ (splitArguments t).mapM (buildAt 11) = .ok vs := by
  have hfilter : (splitArguments t).filter (fun s => !Text.isBlankText s) = splitArguments t := by
    apply List.filter_eq_self.mpr
    intro s hs
    rw [not_isBlankText_of_mem_splitArguments hs, Bool.not_false]
  rw [parseList, parseAll_ok_iff, splitSpecs_eq_splitArguments hescape, hfilter]
  rfl

open Suite in
/-- The two ways to write a conjunction agree, but for the level that the wrapper costs. -/
theorem build_all_eq_parseList (cat : Catalog) {t : String} (hescape : '\\' ∉ t.toList)
    (hne : splitArguments t ≠ []) :
    (∀ vs, build ("all(" ++ t ++ ")") 0 = .ok (.all vs) → (parseList cat t).result = .ok vs) ∧
    (∀ vs, (parseList cat t).result = .ok vs →
      build ("all(" ++ t ++ ")") 0 = .ok (.all vs) ∨
      build ("all(" ++ t ++ ")") 0 = .error (.spec (.tooDeep maxDepth))) ∧
    ∀ vs value, checkAll value vs = (Validator.all vs).run value := by
  have hdepth : (0 : Int) ≤ 10 := by decide
  -- the specs in the parentheses are one level deeper than those in the list
  have hlevels : UpToDepth ((splitArguments t).mapM (build · (0 + 1)))
      ((splitArguments t).mapM (buildAt 11)) :=
    UpToDepth.mapM (buildAt_upToDepth (by decide)) _
  refine ⟨?_, ?_, fun vs value => checkAll_eq_run value vs⟩
  · intro vs hbuild
    rw [build_all hne hdepth, Build.bind_ok_iff] at hbuild
    obtain ⟨ws, hws, hall⟩ := hbuild
    obtain rfl : ws = vs := by simpa [pure, Except.pure] using hall
    rw [parseList_ok_iff cat hescape]
    rcases hlevels with hsame | hdeep
    · rw [← hsame, hws]
    · exact absurd (hdeep.symm.trans hws) (refuse_ne_ok _ _)
  · intro vs hparse
    rw [parseList_ok_iff cat hescape] at hparse
    rw [build_all hne hdepth]
    rcases hlevels with hsame | hdeep
    · left
      rw [hsame, hparse]
      rfl
    · right
      rw [hdeep]
      rfl

/-- Two specs, one of which has a comma of its own. -/
theorem build_all_eq_parseList_email :
    build "all(email, url(http,https))" 0 =
        .ok (.all [.leaf .email, .leaf (.url ["http", "https"])]) ∧
      (Suite.parseList .english "email, url(http,https)").result =
        .ok [.leaf .email, .leaf (.url ["http", "https"])] := by
  have hne : splitArguments "email, url(http,https)" ≠ [] := by decide
  have hbuild : build "all(email, url(http,https))" 0 =
      .ok (.all [.leaf .email, .leaf (.url ["http", "https"])]) := by
    exact (build_all hne (by decide)).trans rfl
  exact ⟨hbuild, (build_all_eq_parseList .english (by decide) hne).1 _ hbuild⟩

end ValueSpec
