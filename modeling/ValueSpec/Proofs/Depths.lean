import Mathlib.Order.Nat
import ValueSpec.Proofs.Arguments
import ValueSpec.Proofs.Derived
import ValueSpec.Proofs.Sizes

namespace ValueSpec

open Build

/-- Is an error of a construction the refusal of a spec that is too deep? -/
def BuildError.IsDeep : BuildError → Prop
  | .spec e => e.code = .recursionDepthExceeded
  | .fault _ => False

lemma BuildError.IsLocal.not_isDeep {e : BuildError} (h : e.IsLocal) : ¬ e.IsDeep := by
  cases e with
  | spec e =>
    have hlocal : e.isLocal := h
    intro hdeep
    have hcode : e.code = .recursionDepthExceeded := hdeep
    simp [SpecError.isLocal, hcode] at hlocal
  | fault f => exact id

namespace Registry

/-- With more levels than it has characters a spec is not refused for its depth: the specs in it
are shorter, so that none of them misses a level either. -/
lemma buildAt_not_deep {n : Nat} {text : String} (h : (Text.strip text).length < n) :
    FailsOnly (¬ ·.IsDeep) (buildAt n text) := by
  have hlocal : ∀ e : BuildError, e.IsLocal → ¬ e.IsDeep := fun _ he => he.not_isDeep
  have hunknown : ∀ name, lookup? name = none → ¬ BuildError.IsDeep (.spec (.unknown name)) := by
    intro name _ hdeep
    have hcode : Code.unknownValidator = .recursionDepthExceeded := hdeep
    cases hcode
  induction n generalizing text with
  | zero => omega
  | succ n ih =>
    rw [buildAt]
    cases hcall : Call.parse shapeFor text with
    | error e =>
      have he : e.isLocal := Call.parse_local shapeFor text e hcall
      rw [Build.ofSpec_error, Build.refuse_bind]
      exact (FailsOnly.refuse he).mono hlocal
    | ok call =>
      rw [Build.ofSpec_ok, Build.ok_bind]
      refine resolveWith_fails hlocal hunknown call.name fun a ha => ih ?_
      have hlt : (Text.strip a).length < (Text.strip text).length :=
        calc (Text.strip a).length
          _ ≤ a.length := Text.length_strip_le a
          _ ≤ totalLength call.args := length_le_totalLength ha
          _ < (Text.strip text).length := Call.totalLength_args_lt hcall
      omega

/-- Every spec has a deepest place. There and above it becomes the same or is refused in the same
way, and below it is refused for its depth. -/
theorem exists_deepest (text : String) :
    ∃ deepest ≤ maxDepth, ∃ r : Build Validator, FailsOnly (¬ ·.IsDeep) r ∧
      ∀ depth, build text depth = if depth ≤ deepest then r else refuse (.tooDeep maxDepth) := by
  classical
  obtain ⟨enough, henough⟩ : ∃ n, FailsOnly (¬ ·.IsDeep) (buildAt n text) :=
    ⟨_, buildAt_not_deep (Nat.lt_succ_self (Text.strip text).length)⟩
  have hne : buildAt enough text ≠ refuse (.tooDeep maxDepth) := fun h => henough _ h rfl
  -- the fewest levels with which the spec is not refused for its depth
  obtain ⟨needed, hneeded, hfewer⟩ : ∃ needed, buildAt needed text ≠ refuse (.tooDeep maxDepth) ∧
      ∀ n < needed, buildAt n text = refuse (.tooDeep maxDepth) :=
    have hexists : ∃ n, buildAt n text ≠ refuse (.tooDeep maxDepth) := ⟨enough, hne⟩
    ⟨Nat.find hexists, Nat.find_spec hexists, fun _ hn => not_not.mp (Nat.find_min hexists hn)⟩
  have hsame : ∀ n, needed ≤ n → buildAt needed text = buildAt n text := fun n hn =>
    (buildAt_upToDepth hn text).resolve_right hneeded
  have hpos : needed ≠ 0 := by
    rintro rfl
    exact hneeded rfl
  have hle : needed ≤ enough := not_lt.mp fun hlt => hne (hfewer enough hlt)
  refine ⟨maxDepth + 1 - needed, by omega, buildAt needed text, ?_, fun depth => ?_⟩
  · rw [hsame enough hle]
    exact henough
  · have hlevels : depth ≤ maxDepth + 1 - needed ↔ needed ≤ levels depth := by
      rw [levels]
      omega
    rw [build]
    split_ifs with hdepth
    · exact (hsame _ (hlevels.mp hdepth)).symm
    · exact hfewer _ (not_le.mp (mt hlevels.mpr hdepth))

/-- A spec that becomes a validator at a depth becomes the same one at every depth above, and one
that is refused for anything but its depth is refused for the same above. Below, the validator
stays the same until the spec is too deep. -/
theorem build_deeper (text : String) {above below : Int} (h : above ≤ below) :
    (∀ v, build text below = .ok v → build text above = .ok v) ∧
    (∀ code params, code ≠ .recursionDepthExceeded →
      Refused (build text below) code params → Refused (build text above) code params) ∧
    ∀ v, build text above = .ok v → build text below = .ok v ∨
      ∃ params, Refused (build text below) .recursionDepthExceeded params := by
  obtain ⟨deepest, -, r, -, hbuild⟩ := exists_deepest text
  by_cases hbelow : below ≤ deepest
  · have hsame : build text above = build text below := by
      rw [hbuild, hbuild, if_pos hbelow, if_pos (h.trans hbelow)]
    rw [hsame]
    exact ⟨fun _ => id, fun _ _ _ => id, fun _ => .inl⟩
  · have hdeep : build text below = refuse (.tooDeep maxDepth) := by rw [hbuild, if_neg hbelow]
    rw [hdeep]
    refine ⟨fun v hv => absurd hv (refuse_ne_ok _ _), fun code params hcode hrefused => ?_,
      fun _ _ => .inr ⟨_, Refused.refuse_iff.mpr ⟨rfl, rfl⟩⟩⟩
    exact absurd (Refused.refuse_iff.mp hrefused).1.symm hcode

/-- A negation that is built at the last depth but one, and one that is refused there for what it
holds. One step deeper the first is too deep. -/
theorem build_deeper_not :
    let nameless : Params := [("spec", .text "()"), ("reason", .text "missing validator name")]
    build "not(email)" 9 = .ok (.not (.leaf .email)) ∧
    build "not(email)" 0 = .ok (.not (.leaf .email)) ∧
    Refused (build "not(())" 9) .invalidValidator nameless ∧
    Refused (build "not(())" 0) .invalidValidator nameless ∧
    (build "not(email)" 10 = .ok (.not (.leaf .email)) ∨
      ∃ params, Refused (build "not(email)" 10) .recursionDepthExceeded params) ∧
    build "not(email)" 10 ≠ .ok (.not (.leaf .email)) := by
  intro nameless
  have hword : Text.stripChars "email".toList ≠ [] := by decide
  have hbrackets : Text.stripChars "()".toList ≠ [] := by decide
  have hemail : build "not(email)" 9 = .ok (.not (.leaf .email)) :=
    (build_not hword (by decide)).trans rfl
  have hdeep : build "not(email)" 10 = refuse (.tooDeep maxDepth) :=
    (build_not hword le_rfl).trans rfl
  have hnameless : build "not(())" 9 = refuse (.malformed "()" .missingName none) :=
    (build_not hbrackets (by decide)).trans rfl
  have hrefused : Refused (build "not(())" 9) .invalidValidator nameless :=
    hnameless ▸ Refused.refuse_iff.mpr ⟨rfl, rfl⟩
  obtain ⟨hup, -, -⟩ := build_deeper "not(email)" (by decide : (0 : Int) ≤ 9)
  obtain ⟨-, hrefuses, -⟩ := build_deeper "not(())" (by decide : (0 : Int) ≤ 9)
  obtain ⟨-, -, hdown⟩ := build_deeper "not(email)" (by decide : (9 : Int) ≤ 10)
  refine ⟨hemail, hup _ hemail, hrefused, hrefuses _ _ (by decide) hrefused, hdown _ hemail, ?_⟩
  rw [hdeep]
  exact refuse_ne_ok _ _

end Registry

end ValueSpec
