import Mathlib.Data.List.Forall2
import ValueSpec.Proofs.Complaints
import ValueSpec.Proofs.Evaluation
import ValueSpec.Proofs.Leaves

/-!
# Rejections as refutations

The rejection of a value by a tree of validators shows why the tree as a whole is false of it. A
conjunction hands on the rejection by its first child that rejects the value, an alternative keeps
the rejections by all of its children, and a negation has nothing to keep. So every rejection
inside of a rejection is one by a leaf, by an alternative or by a negation, and what these three
have in common holds throughout.
-/

namespace ValueSpec

namespace Validator

/-! ### Nodes of validators -/

section

variable {P : Validator → Prop}

mutual

/-- What holds of a validator as soon as it holds of its children holds of every validator. -/
lemma childInduction (h : ∀ v, (∀ w ∈ v.children, P w) → P v) (v : Validator) : P v := by
  match v with
  | leaf l => exact h _ nofun
  | all vs => exact h _ (childInductionAll h vs)
  | any vs => exact h _ (childInductionAll h vs)
  | not v =>
    apply h
    intro w hw
    rw [List.mem_singleton.mp hw]
    exact childInduction h v

lemma childInductionAll (h : ∀ v, (∀ w ∈ v.children, P w) → P v) (vs : List Validator) :
    ∀ w ∈ vs, P w := by
  match vs with
  | [] => exact nofun
  | v :: vs => exact List.forall_mem_cons.mpr ⟨childInduction h v, childInductionAll h vs⟩

end

end

/-! ### One node -/

/-- A check returns, and this is what it returns. -/
def Gives (v : Validator) (value : String) (o : Outcome) : Prop := (v.run value).result = .ok o

section

variable {value : String}

/-- A conjunction rejects a value with the rejection by the first child that does. -/
lemma gives_all_rejected_iff {vs : List Validator} {why : Rejection} :
    (all vs).Gives value (.rejected why) ↔
      ∃ before v after, vs = before ++ v :: after ∧ (∀ w ∈ before, w.Gives value .accepted) ∧
        v.Gives value (.rejected why) := by
  rw [Gives, run]
  induction vs with
  | nil => simp [runAll]
  | cons v vs ih =>
    rw [runAll, Traced.result_bind_eq_ok_iff]
    constructor
    · rintro ⟨_ | why', hv, hrest⟩
      · obtain ⟨before, w, after, rfl, hbefore, hw⟩ := ih.mp hrest
        exact ⟨v :: before, w, after, rfl, List.forall_mem_cons.mpr ⟨hv, hbefore⟩, hw⟩
      · obtain rfl : why' = why := by simpa using hrest
        exact ⟨[], v, vs, rfl, by simp, hv⟩
    · rintro ⟨_ | ⟨u, before⟩, w, after, hsplit, hbefore, hw⟩
      · obtain ⟨rfl, rfl⟩ := List.cons.inj hsplit
        exact ⟨.rejected why, hw, rfl⟩
      · obtain ⟨rfl, rfl⟩ := List.cons.inj hsplit
        rw [List.forall_mem_cons] at hbefore
        exact ⟨.accepted, hbefore.1, ih.mpr ⟨before, w, after, rfl, hbefore.2, hw⟩⟩

lemma exists_of_forall₂ {α β : Type} {R : α → β → Prop} {as : List α} {bs : List β}
    (h : List.Forall₂ R as bs) {b : β} (hb : b ∈ bs) : ∃ a ∈ as, R a b := by
  induction h with
  | nil => cases hb
  | cons hab _ ih =>
    obtain rfl | hb := List.mem_cons.mp hb
    · exact ⟨_, List.mem_cons_self, hab⟩
    · obtain ⟨a, ha, hR⟩ := ih hb
      exact ⟨a, List.mem_cons_of_mem _ ha, hR⟩

lemma runAny_eq_some_iff {vs : List Validator} {whys : List Rejection} :
    (runAny value vs).result = .ok (some whys) ↔
      List.Forall₂ (fun v why => v.Gives value (.rejected why)) vs whys := by
  induction vs generalizing whys with
  | nil => simp [runAny, eq_comm]
  | cons v vs ih =>
    rw [runAny, Traced.result_bind_eq_ok_iff, List.forall₂_cons_left_iff]
    constructor
    · rintro ⟨_ | why, hv, hrest⟩
      · simp at hrest
      · obtain ⟨a, ha, hsome⟩ := Traced.result_bind_eq_ok_iff.mp hrest
        obtain ⟨whys', rfl, rfl⟩ : ∃ whys', a = some whys' ∧ why :: whys' = whys := by
          simpa using hsome
        exact ⟨why, whys', hv, ih.mp ha, rfl⟩
    · rintro ⟨why, whys', hv, hvs, rfl⟩
      refine ⟨.rejected why, hv, Traced.result_bind_eq_ok_iff.mpr ⟨some whys', ih.mpr hvs, rfl⟩⟩

/-- A rejection that needs a name is given where the name can be written. -/
lemma writeName_result_eq_ok_iff {v : Validator} {g : String → Outcome} {o : Outcome} :
    (do
      let validator ← .of v.writeName
      return g validator : Run Outcome).result = .ok o ↔ v.isNameable ∧ g v.name = o := by
  rw [Traced.result_bind_eq_ok_iff, writeName]
  cases h : v.isNameable with
  | true =>
    rw [Integer.writing_of_short h]
    simp [Traced.of]
  | false =>
    rw [Integer.writing_of_not_short h]
    simp [Traced.of]

/-- An alternative rejects a value if all of its children do and there are any. -/
lemma gives_any_rejected_iff {vs : List Validator} {why : Rejection} :
    (any vs).Gives value (.rejected why) ↔
      vs ≠ [] ∧ (any vs).isNameable ∧
      ∃ whys, List.Forall₂ (fun v why => v.Gives value (.rejected why)) vs whys ∧
        why = { code := .combinedFailed, value, validator := (any vs).name, causes := whys } := by
  rw [Gives, run, Traced.result_bind_eq_ok_iff]
  constructor
  · rintro ⟨_ | _ | ⟨first, others⟩, hvs, hwhy⟩
    · simp at hwhy
    · simp at hwhy
    · rw [runAny_eq_some_iff] at hvs
      obtain ⟨hname, hwhy⟩ := writeName_result_eq_ok_iff.mp hwhy
      refine ⟨?_, hname, first :: others, hvs, (Outcome.rejected.inj hwhy).symm⟩
      rintro rfl
      cases hvs
  · rintro ⟨hne, hname, whys, hvs, rfl⟩
    refine ⟨some whys, runAny_eq_some_iff.mpr hvs, ?_⟩
    cases whys with
    | nil => exact absurd (List.forall₂_nil_right_iff.mp hvs) hne
    | cons first others => exact writeName_result_eq_ok_iff.mpr ⟨hname, rfl⟩

/-- A negation rejects what its child accepts. -/
lemma gives_not_rejected_iff {v : Validator} {why : Rejection} :
    (not v).Gives value (.rejected why) ↔
      v.Gives value .accepted ∧ (not v).isNameable ∧
        why = { code := .valueCannotBe, value, validator := (not v).name } := by
  rw [Gives, run, Traced.result_bind_eq_ok_iff]
  constructor
  · rintro ⟨_ | other, hv, hwhy⟩
    · obtain ⟨hname, hwhy⟩ := writeName_result_eq_ok_iff.mp hwhy
      exact ⟨hv, hname, (Outcome.rejected.inj hwhy).symm⟩
    · simp at hwhy
  · rintro ⟨hv, hname, rfl⟩
    exact ⟨.accepted, hv, writeName_result_eq_ok_iff.mpr ⟨hname, rfl⟩⟩

lemma gives_leaf_rejected_iff {l : Leaf} {why : Rejection} :
    (leaf l).Gives value (.rejected why) ↔
      l.isNameable ∧ ∃ code params, l.complaint? value = .ok (some (code, params)) ∧
        why = { code, value, params, validator := l.name } := by
  rw [Gives, run, Leaf.outcome_eq_rejected_iff]

end

end Validator

/-! ### Nodes of rejections -/

namespace Rejection

mutual

/-- A rejection and all rejections inside of it. -/
def nodes : Rejection → List Rejection
  | ⟨code, value, params, validator, causes⟩ =>
    ⟨code, value, params, validator, causes⟩ :: nodesAll causes

/-- Several rejections and all rejections inside of them. -/
def nodesAll : List Rejection → List Rejection
  | [] => []
  | why :: whys => why.nodes ++ nodesAll whys

end

lemma nodes_eq (why : Rejection) : why.nodes = why :: nodesAll why.causes := by
  cases why
  rw [nodes]

lemma mem_nodesAll {r : Rejection} {whys : List Rejection} :
    r ∈ nodesAll whys ↔ ∃ why ∈ whys, r ∈ why.nodes := by
  induction whys with
  | nil => simp [nodesAll]
  | cons why whys ih => simp [nodesAll, ih]

section

variable {r : Rejection}

mutual

/-- What is inside of something inside of a rejection is inside of it. -/
lemma nodes_subset (why : Rejection) (hr : r ∈ why.nodes) : r.nodes ⊆ why.nodes := by
  match why with
  | ⟨code, value, params, validator, causes⟩ =>
    rw [nodes] at hr ⊢
    obtain rfl | hr := List.mem_cons.mp hr
    · rw [nodes]
      exact List.Subset.refl _
    · exact List.subset_cons_of_subset _ (nodes_subset_nodesAll causes hr)

lemma nodes_subset_nodesAll (whys : List Rejection) (hr : r ∈ nodesAll whys) :
    r.nodes ⊆ nodesAll whys := by
  match whys with
  | [] => cases hr
  | why :: whys =>
    rw [nodesAll] at hr ⊢
    obtain hr | hr := List.mem_append.mp hr
    · exact List.subset_append_of_subset_left _ (nodes_subset why hr)
    · exact List.subset_append_of_subset_right _ (nodes_subset_nodesAll whys hr)

end

end

end Rejection

namespace Validator

section

variable {value : String} {P : Rejection → Prop}

/-- What holds of the rejections by the leaves of a validator, by alternatives and by negations
holds of every rejection inside of a rejection by the validator. -/
theorem forall_nodes_of_leaves {v : Validator}
    (hleaf : ∀ l ∈ v.leaves, l.isNameable → ∀ (code : Code) (params : Params),
      l.complaint? value = .ok (some (code, params)) →
        P { code, value, params, validator := l.name })
    (hany : ∀ (vs : List Validator) (whys : List Rejection), whys ≠ [] →
      P { code := .combinedFailed, value, validator := (any vs).name, causes := whys })
    (hnot : ∀ v : Validator, P { code := .valueCannotBe, value, validator := (not v).name })
    {why : Rejection} (h : v.Gives value (.rejected why)) : ∀ r ∈ why.nodes, P r := by
  induction v using childInduction generalizing why with
  | h v ih =>
  cases v with
  | leaf l =>
    obtain ⟨hname, code, params, hcomplaint, rfl⟩ := gives_leaf_rejected_iff.mp h
    have hl := hleaf l (List.mem_singleton_self l) hname code params hcomplaint
    simpa [Rejection.nodes_eq, Rejection.nodesAll] using hl
  | all vs =>
    obtain ⟨before, w, after, rfl, -, hw⟩ := gives_all_rejected_iff.mp h
    have hmem : w ∈ before ++ w :: after := by simp
    exact ih w hmem (fun l hl => hleaf l (mem_leavesAll.mpr ⟨w, hmem, hl⟩)) hw
  | any vs =>
    obtain ⟨hne, -, whys, hvs, rfl⟩ := gives_any_rejected_iff.mp h
    rw [Rejection.nodes_eq, List.forall_mem_cons]
    constructor
    · apply hany
      rintro rfl
      exact hne (List.forall₂_nil_right_iff.mp hvs)
    · intro r hr
      obtain ⟨cause, hcause, hr⟩ := Rejection.mem_nodesAll.mp hr
      obtain ⟨w, hw, hgives⟩ := exists_of_forall₂ hvs hcause
      exact ih w hw (fun l hl => hleaf l (mem_leavesAll.mpr ⟨w, hw, hl⟩)) hgives r hr
  | not w =>
    obtain ⟨-, -, rfl⟩ := gives_not_rejected_iff.mp h
    simpa [Rejection.nodes_eq, Rejection.nodesAll] using hnot w

/-- What holds of the rejections by leaves, by alternatives and by negations holds of every
rejection inside of a rejection. -/
theorem forall_nodes
    (hleaf : ∀ l : Leaf, l.isNameable → ∀ (code : Code) (params : Params),
      l.complaint? value = .ok (some (code, params)) →
        P { code, value, params, validator := l.name })
    (hany : ∀ (vs : List Validator) (whys : List Rejection), whys ≠ [] →
      P { code := .combinedFailed, value, validator := (any vs).name, causes := whys })
    (hnot : ∀ v : Validator, P { code := .valueCannotBe, value, validator := (not v).name })
    {v : Validator} {why : Rejection} (h : v.Gives value (.rejected why)) :
    ∀ r ∈ why.nodes, P r :=
  forall_nodes_of_leaves (fun l _ => hleaf l) hany hnot h

end

/-- A rejection says exactly why the tree of validators is false of the value, and all rejections
inside of it are about this value. Only those by alternatives have causes. -/
theorem rejected_refutes (value : String) :
    (∀ vs why, (all vs).Gives value (.rejected why) ↔
      ∃ before v after, vs = before ++ v :: after ∧ (∀ w ∈ before, w.Gives value .accepted) ∧
        v.Gives value (.rejected why)) ∧
    (∀ vs why, (any vs).Gives value (.rejected why) ↔
      vs ≠ [] ∧ (any vs).isNameable ∧
      ∃ whys, List.Forall₂ (fun v why => v.Gives value (.rejected why)) vs whys ∧
        why = { code := .combinedFailed, value, validator := (any vs).name, causes := whys }) ∧
    (∀ v why, (not v).Gives value (.rejected why) ↔
      v.Gives value .accepted ∧ (not v).isNameable ∧
        why = { code := .valueCannotBe, value, validator := (not v).name, causes := [] }) ∧
    ∀ v o, Gives v value o →
      (o.isAccepted = true ↔ o.rejection? = none) ∧
      ∀ why, o.rejection? = some why → ∀ r ∈ why.nodes,
        r.value = value ∧ r.code.category = .validation ∧
          (r.causes ≠ [] ↔ r.code = .combinedFailed) := by
  refine ⟨fun _ _ => gives_all_rejected_iff, fun _ _ => gives_any_rejected_iff,
    fun _ _ => gives_not_rejected_iff, ?_⟩
  rintro v (_ | why) h
  · exact ⟨by simp [Outcome.isAccepted, Outcome.rejection?], nofun⟩
  refine ⟨by simp [Outcome.isAccepted, Outcome.rejection?], ?_⟩
  rintro _ ⟨⟩
  refine forall_nodes ?_ ?_ ?_ h
  · intro l _ code params hcomplaint
    obtain ⟨hcategory, hcode⟩ := (Leaf.usual_complaint? hcomplaint _ rfl).code
    exact ⟨rfl, hcategory, by simpa using hcode⟩
  · intro vs whys hwhys
    exact ⟨rfl, rfl, by simpa using hwhys⟩
  · intro v
    exact ⟨rfl, rfl, by simp⟩

/-- A conjunction that fails at its second child, next to a negation, in an alternative. -/
theorem rejected_refutes_nested :
    let v : Validator := any
      [all [leaf (.equals "b"), leaf (.contains "x"), leaf .integer], not (leaf (.hasPrefix "b"))]
    ∃ why missing barred : Rejection,
      (leaf (.contains "x")).Gives "b" (.rejected missing) ∧
      (not (leaf (.hasPrefix "b"))).Gives "b" (.rejected barred) ∧
      v.Gives "b" (.rejected why) ∧ why.code = .combinedFailed ∧ why.validator = v.name ∧
      why.causes = [missing, barred] ∧
      ∀ r ∈ why.nodes, r.value = "b" ∧ r.code.category = .validation ∧
        (r.causes ≠ [] ↔ r.code = .combinedFailed) := by
  intro v
  obtain ⟨hall, hany, hnot, hnodes⟩ := rejected_refutes "b"
  have hmissing : (leaf (.contains "x")).Gives "b" (.rejected
      { code := .patternMatch, value := "b", validator := Leaf.name (.contains "x")
        params := [("description", .text "must contain 'x'")] }) := rfl
  have hbarred := (hnot (leaf (.hasPrefix "b")) _).mpr ⟨rfl, rfl, rfl⟩
  have hconj := (hall [leaf (.equals "b"), leaf (.contains "x"), leaf .integer] _).mpr
    ⟨[leaf (.equals "b")], _, _, rfl, List.forall_mem_singleton.mpr rfl, hmissing⟩
  have hv : v.Gives "b" _ := (hany _ _).mpr ⟨nofun, rfl, _, .cons hconj (.cons hbarred .nil), rfl⟩
  exact ⟨_, _, _, hmissing, hbarred, hv, rfl, rfl, rfl, (hnodes v _ hv).2 _ rfl⟩

end Validator

end ValueSpec
