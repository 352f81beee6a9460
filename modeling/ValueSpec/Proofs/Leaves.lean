import ValueSpec.Proofs.Building
import ValueSpec.Proofs.Evaluation

namespace ValueSpec

open Build Registry

/-! ### Results of one kind -/

/-- A construction whose result, if there is one, is of a kind. -/
def Yields {α : Type} (P : α → Prop) (r : Build α) : Prop := ∀ a, r = .ok a → P a

namespace Yields

variable {α β : Type} {P : α → Prop} {Q : β → Prop}

lemma ok {a : α} (h : P a) : Yields P (.ok a) := by
  rintro _ ⟨⟩
  exact h

lemma refuse (e : SpecError) : Yields P (refuse e) := nofun

lemma bind {r : Build α} {f : α → Build β} (hr : Yields P r) (hf : ∀ a, P a → Yields Q (f a)) :
    Yields Q (r >>= f) := by
  intro b hb
  obtain ⟨a, ha, hb⟩ := bind_ok_iff.mp hb
  exact hf a (hr a ha) b hb

/-- Whatever comes first, what follows decides. -/
lemma bind_right {r : Build α} {f : α → Build β} (hf : ∀ a, Yields Q (f a)) :
    Yields Q (r >>= f) := by
  intro b hb
  obtain ⟨a, -, hb⟩ := bind_ok_iff.mp hb
  exact hf a b hb

lemma mapM {f : α → Build β} (hf : ∀ a, Yields Q (f a)) (as : List α) :
    Yields (fun bs => ∀ b ∈ bs, Q b) (as.mapM f) := by
  induction as with
  | nil => exact ok (by simp)
  | cons a as ih =>
    rw [List.mapM_cons]
    refine (hf a).bind fun b hb => ih.bind fun bs hbs => ok ?_
    simpa using ⟨hb, hbs⟩

end Yields

/-! ### Leaves of a tree -/

namespace Validator

mutual

/-- The leaves of a validator, from left to right. -/
def leaves : Validator → List Leaf
  | leaf l => [l]
  | all vs => leavesAll vs
  | any vs => leavesAll vs
  | not v => v.leaves

/-- The leaves of several validators. -/
def leavesAll : List Validator → List Leaf
  | [] => []
  | v :: vs => v.leaves ++ leavesAll vs

end

lemma mem_leavesAll {vs : List Validator} {l : Leaf} :
    l ∈ leavesAll vs ↔ ∃ v ∈ vs, l ∈ v.leaves := by
  induction vs with
  | nil => simp [leavesAll]
  | cons v vs ih => simp [leavesAll, ih]

section

variable {p : Leaf → Bool} {l : Leaf}

lemma mem_of_mem_name {b : Bool} {v : Validator} {ls : List Leaf}
    (h : Step.look l ∈ if b then [] else [Step.name v]) : l ∈ ls := by
  cases b with
  | true => cases h
  | false => simp at h

mutual

/-- A check looks at leaves of the tree only. -/
lemma mem_leaves_of_mem_steps (v : Validator) (h : .look l ∈ v.steps p) : l ∈ v.leaves := by
  match v with
  | leaf m => simpa [steps, leaves] using h
  | all vs => exact mem_leavesAll_of_mem_stepsAll vs h
  | any vs =>
    rw [steps, List.mem_append] at h
    exact h.elim (mem_leavesAll_of_mem_stepsAny vs) mem_of_mem_name
  | not v =>
    rw [steps, List.mem_append] at h
    exact h.elim (mem_leaves_of_mem_steps v) mem_of_mem_name

lemma mem_leavesAll_of_mem_stepsAll (vs : List Validator) (h : .look l ∈ stepsAll p vs) :
    l ∈ leavesAll vs := by
  match vs with
  | [] => cases h
  | v :: vs =>
    rw [stepsAll, List.mem_append] at h
    rw [leavesAll, List.mem_append]
    rcases h with h | h
    · exact .inl (mem_leaves_of_mem_steps v h)
    · split_ifs at h
      · exact .inr (mem_leavesAll_of_mem_stepsAll vs h)
      · cases h

lemma mem_leavesAll_of_mem_stepsAny (vs : List Validator) (h : .look l ∈ stepsAny p vs) :
    l ∈ leavesAll vs := by
  match vs with
  | [] => cases h
  | v :: vs =>
    rw [stepsAny, List.mem_append] at h
    rw [leavesAll, List.mem_append]
    rcases h with h | h
    · exact .inl (mem_leaves_of_mem_steps v h)
    · split_ifs at h
      · cases h
      · exact .inr (mem_leavesAll_of_mem_stepsAny vs h)

end

lemma mem_leaves_of_mem_visited {v : Validator} (h : l ∈ v.visited p) : l ∈ v.leaves :=
  mem_leaves_of_mem_steps v (mem_visited.mp h)

end

mutual

/-- The integers in the name of a tree are those in the names of its leaves. -/
lemma integers_eq (v : Validator) : v.integers = v.leaves.flatMap Leaf.integers := by
  match v with
  | leaf l => simp [integers, leaves]
  | all vs => exact integersOf_eq vs
  | any vs => exact integersOf_eq vs
  | not v => exact integers_eq v

lemma integersOf_eq (vs : List Validator) :
    integersOf vs = (leavesAll vs).flatMap Leaf.integers := by
  match vs with
  | [] => rfl
  | v :: vs =>
    rw [integersOf, leavesAll, List.flatMap_append, integers_eq v, integersOf_eq vs]

end

/-- The name of a tree can be written if those of its leaves can. -/
lemma isNameable_iff {v : Validator} : v.isNameable ↔ ∀ l ∈ v.leaves, l.isNameable := by
  simp [isNameable, Leaf.isNameable, integers_eq, List.all_flatMap]

/-- Where leaves call nothing, have names and never fail, the value of the expression is decided. -/
lemma decides_eval {v : Validator}
    (h : ∀ l ∈ v.leaves, l.calls = [] ∧ l.isNameable ∧ ∀ value, ∃ o, l.outcome value = .ok o) :
    v.Decides fun value => v.eval (Leaf.accepts value) := by
  intro value
  have hvisited : ∀ l ∈ v.visited (Leaf.accepts value), l.calls = [] ∧
      ∃ o, l.outcome value = .ok o := by
    intro l hl
    obtain ⟨hcalls, -, houtcome⟩ := h l (mem_leaves_of_mem_visited hl)
    exact ⟨hcalls, houtcome value⟩
  obtain ⟨o, ho, hverdict⟩ := run_of_quiet (isNameable_iff.mpr fun l hl => (h l hl).2.1) hvisited
  exact ⟨o, ho, by rw [hverdict]⟩

end Validator

/-! ### Leaves of built validators -/

namespace Registry

section

variable (P : Leaf → Prop)

/-- A validator all of whose leaves are of a kind. -/
def AllLeaves (v : Validator) : Prop := ∀ l ∈ v.leaves, P l

/-- A form that makes validators with leaves of a kind, of specs if theirs are of that kind. -/
def FormLeaves : Form → Prop
  | .fixed v => AllLeaves P v
  | .one make => ∀ name a, Yields (AllLeaves P) (make name a)
  | .two make => ∀ name a b, Yields (AllLeaves P) (make name a b)
  | .some make => ∀ values, AllLeaves P (make values)
  | .many make => ∀ values, AllLeaves P (make values)
  | .whole make => ∀ a, Yields (AllLeaves P) (make a)
  | .specs make => ∀ vs, (∀ v ∈ vs, AllLeaves P v) → AllLeaves P (make vs)
  | .spec make => ∀ v, AllLeaves P v → AllLeaves P (make v)

end

variable {P : Leaf → Prop}

@[simp] lemma allLeaves_leaf {l : Leaf} : AllLeaves P (.leaf l) ↔ P l := by
  simp [AllLeaves, Validator.leaves]

@[simp] lemma allLeaves_not {v : Validator} : AllLeaves P (.not v) ↔ AllLeaves P v := .rfl

@[simp] lemma allLeaves_all {vs : List Validator} :
    AllLeaves P (.all vs) ↔ ∀ v ∈ vs, AllLeaves P v := by
  simp only [AllLeaves, Validator.leaves, Validator.mem_leavesAll]
  constructor
  · intro h v hv l hl
    exact h l ⟨v, hv, hl⟩
  · rintro h l ⟨v, hv, hl⟩
    exact h v hv l hl

@[simp] lemma allLeaves_any {vs : List Validator} :
    AllLeaves P (.any vs) ↔ ∀ v ∈ vs, AllLeaves P v := allLeaves_all

lemma make_leaves {e : Entry} (hform : FormLeaves P e.form) {nested : String → Build Validator}
    (hnested : ∀ s, Yields (AllLeaves P) (nested s)) (args : List String) :
    Yields (AllLeaves P) (e.make nested args) := by
  unfold Entry.make
  split
  case h_1 v hv =>
    rw [hv] at hform
    exact .ok hform
  case h_2 make a hmake =>
    rw [hmake] at hform
    exact hform _ _
  case h_3 make a b hmake =>
    rw [hmake] at hform
    exact hform _ _ _
  case h_4 make a rest hmake =>
    rw [hmake] at hform
    exact .ok (hform _)
  case h_5 make hmake =>
    rw [hmake] at hform
    exact .ok (hform _)
  case h_6 make a hmake =>
    rw [hmake] at hform
    exact hform _
  case h_7 make a rest hmake =>
    rw [hmake] at hform
    exact (Yields.mapM hnested _).bind fun vs hvs => .ok (hform vs hvs)
  case h_8 make a hmake =>
    rw [hmake] at hform
    exact (hnested a).bind fun v hv => .ok (hform v hv)
  case h_9 => exact .refuse _

/-- What every entry makes has leaves of a kind, and then so does what is built of a spec. -/
lemma buildAt_leaves (hentries : ∀ e ∈ entries, FormLeaves P e.form) (n : Nat) (text : String) :
    Yields (AllLeaves P) (buildAt n text) := by
  induction n generalizing text with
  | zero => exact .refuse _
  | succ n ih =>
    refine Yields.bind_right fun call => ?_
    unfold resolveWith
    split
    · exact .refuse _
    · exact make_leaves (hentries _ (mem_entries_of_lookup? ‹_›)) ih call.args

end Registry

end ValueSpec
