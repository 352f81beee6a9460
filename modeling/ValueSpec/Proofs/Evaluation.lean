import Mathlib.Tactic.Lemma
import Mathlib.Tactic.SplitIfs
import ValueSpec.Validator

/-!
# Checking as evaluation

A tree of validators is a Boolean expression over its leaves. Checking a value evaluates it from
left to right and looks at a leaf only if the leaves before it leave the answer open. What comes
out of a check is the value of the expression, and what it leaves in the trace are the calls of the
leaves that it looked at, unless one of these fails.
-/

namespace ValueSpec

/-! ### Leaves -/

namespace Leaf

/-- Does a leaf accept a value? A leaf that fails does not. -/
def accepts (value : String) (l : Leaf) : Bool :=
  match l.outcome value with
  | .ok o => o.isAccepted
  | .error _ => false

lemma accepts_of_outcome {value : String} {l : Leaf} {o : Outcome} (h : l.outcome value = .ok o) :
    l.accepts value = o.isAccepted := by
  simp only [accepts, h]

lemma outcome_eq (value : String) (l : Leaf) :
    l.outcome value =
      match l.complaint? value with
      | .error f => .error f
      | .ok none => .ok .accepted
      | .ok (some (code, params)) =>
        (Integer.writing l.integers l.name).map fun validator =>
          .rejected { code, value, params, validator } := by
  unfold outcome
  rcases l.complaint? value with f | _ | ⟨code, params⟩
  · rfl
  · rfl
  · dsimp only [bind, Except.bind]
    cases Integer.writing l.integers l.name <;> rfl

/-- The outcome of a leaf whose name can be written. -/
lemma outcome_of_isNameable {l : Leaf} (h : l.isNameable) (value : String) :
    l.outcome value =
      match l.complaint? value with
      | .error f => .error f
      | .ok none => .ok .accepted
      | .ok (some (code, params)) =>
        .ok (.rejected { code, value, params, validator := l.name }) := by
  rw [outcome_eq, Integer.writing_of_short h]
  rfl

/-- A leaf rejects a value if it complains and its name can be written. -/
lemma outcome_eq_rejected_iff {value : String} {l : Leaf} {why : Rejection} :
    l.outcome value = .ok (.rejected why) ↔
      l.isNameable ∧ ∃ code params, l.complaint? value = .ok (some (code, params)) ∧
        why = { code, value, params, validator := l.name } := by
  rw [outcome_eq]
  rcases l.complaint? value with f | _ | ⟨code, params⟩
  · simp
  · simp
  · cases h : l.isNameable with
    | true =>
      rw [Integer.writing_of_short h]
      simp [Except.map, and_assoc, eq_comm]
    | false => simp [Integer.writing_of_not_short h, Except.map]

/-- A leaf with such a name that has looked at a value has an outcome, whether it complains or
not. -/
lemma exists_outcome {value : String} {l : Leaf} {answer : Option Complaint} (h : l.isNameable)
    (hanswer : l.complaint? value = .ok answer) : ∃ o, l.outcome value = .ok o := by
  rw [outcome_of_isNameable h, hanswer]
  rcases answer with _ | ⟨code, params⟩ <;> exact ⟨_, rfl⟩

section

variable (value label : String) (check : Check)

/-- A custom leaf rejects a value if its function says that the value is unsuitable or of the wrong
type, and if it answers with the truth value false. -/
lemma custom_rejects_iff :
    (∃ why, (custom label (some check)).outcome value = .ok (.rejected why)) ↔
      (∃ text, check.run value = .raised .unsuitable text) ∨
      (∃ text, check.run value = .raised .wrongType text) ∨
      check.run value = .returned (.bool false) := by
  rw [outcome_of_isNameable rfl, complaint?]
  cases check.run value with
  | returned v =>
    cases v with
    | bool b => cases b <;> simp [customComplaint?, require, Value.isFalse]
    | _ => simp [customComplaint?, require, Value.isFalse]
  | raised e text => cases e <;> simp [customComplaint?]

/-- Every other exception of the function of a custom leaf escapes. -/
lemma custom_fails_iff (f : Fault) :
    (custom label (some check)).outcome value = .error f ↔
      ∃ kind text, check.run value = .raised (.other kind) text ∧ f = .raised kind text := by
  rw [outcome_of_isNameable rfl, complaint?]
  cases check.run value with
  | returned v => cases h : v.isFalse <;> simp [customComplaint?, require, h]
  | raised e text =>
    cases e with
    | other kind => simp [customComplaint?, and_assoc, eq_comm]
    | _ => simp [customComplaint?]

end

end Leaf

namespace Validator

/-! ### Boolean expressions -/

mutual

/-- The value of a tree as a Boolean expression. A disjunction of nothing counts as true. -/
def eval (p : Leaf → Bool) : Validator → Bool
  | leaf l => p l
  | all vs => evalAll p vs
  | any vs => vs.isEmpty || evalAny p vs
  | not v => !v.eval p

/-- Are all of several trees true? -/
def evalAll (p : Leaf → Bool) : List Validator → Bool
  | [] => true
  | v :: vs => v.eval p && evalAll p vs

/-- Is one of several trees true? -/
def evalAny (p : Leaf → Bool) : List Validator → Bool
  | [] => false
  | v :: vs => v.eval p || evalAny p vs

end

/-! ### Steps -/

/-- What a check comes to: a leaf, or an inner node that is false and whose name is written for
that. -/
inductive Step
  | look (l : Leaf)
  | name (v : Validator)

namespace Step

def leaf? : Step → Option Leaf
  | look l => some l
  | name _ => none

def named? : Step → Option Validator
  | look _ => none
  | name v => some v

/-- The custom functions that are called in a step. -/
def calls : Step → List String
  | look l => l.calls
  | name _ => []

/-- A step that can be taken: a leaf has an outcome, a name can be written. -/
def Succeeds (value : String) : Step → Prop
  | look l => ∃ o, l.outcome value = .ok o
  | name v => v.isNameable

def Fails (value : String) (f : Fault) : Step → Prop
  | look l => l.outcome value = .error f
  | name v => v.isNameable = false ∧ f = .tooLongToWrite

end Step

mutual

/-- The steps that settle the value of a tree, from left to right. -/
def steps (p : Leaf → Bool) : Validator → List Step
  | leaf l => [.look l]
  | all vs => stepsAll p vs
  | any vs => stepsAny p vs ++ if eval p (any vs) then [] else [.name (any vs)]
  | not v => v.steps p ++ if eval p (not v) then [] else [.name (not v)]

/-- The steps up to the first of several trees that is false. -/
def stepsAll (p : Leaf → Bool) : List Validator → List Step
  | [] => []
  | v :: vs => v.steps p ++ if v.eval p then stepsAll p vs else []

/-- The steps up to the first of several trees that is true. -/
def stepsAny (p : Leaf → Bool) : List Validator → List Step
  | [] => []
  | v :: vs => v.steps p ++ if v.eval p then [] else stepsAny p vs

end

/-- The leaves that are visited from left to right until the value of a tree is settled. -/
def visited (p : Leaf → Bool) (v : Validator) : List Leaf := (v.steps p).filterMap Step.leaf?

/-- The inner nodes whose names are written on the way. -/
def named (p : Leaf → Bool) (v : Validator) : List Validator := (v.steps p).filterMap Step.named?

lemma mem_visited {p : Leaf → Bool} {v : Validator} {l : Leaf} :
    l ∈ v.visited p ↔ .look l ∈ v.steps p := by
  rw [visited, List.mem_filterMap]
  constructor
  · rintro ⟨_ | _, hs, ⟨⟩⟩
    exact hs
  · exact fun h => ⟨_, h, rfl⟩

lemma mem_named {p : Leaf → Bool} {v w : Validator} :
    w ∈ v.named p ↔ .name w ∈ v.steps p := by
  rw [named, List.mem_filterMap]
  constructor
  · rintro ⟨_ | _, hs, ⟨⟩⟩
    exact hs
  · exact fun h => ⟨_, h, rfl⟩

lemma calls_visited (p : Leaf → Bool) (v : Validator) :
    (v.visited p).flatMap Leaf.calls = (v.steps p).flatMap Step.calls := by
  rw [visited]
  induction v.steps p with
  | nil => rfl
  | cons s ss ih =>
    cases s with
    | look l => simpa [Step.leaf?, Step.calls] using ih
    | name w => exact ih

section

variable {p : Leaf → Bool} {w : Validator}

lemma eq_of_mem_name {b : Bool} {v : Validator}
    (h : Step.name w ∈ if b then [] else [Step.name v]) : w = v := by
  cases b with
  | true => cases h
  | false => exact Step.name.inj (List.mem_singleton.mp h)

mutual

/-- The names that a check writes are parts of the name of the tree. -/
lemma integers_subset (v : Validator) (h : .name w ∈ v.steps p) :
    w.integers ⊆ v.integers := by
  match v with
  | leaf l => simp [steps] at h
  | all vs => exact integers_subset_of_stepsAll vs h
  | any vs =>
    rw [steps, List.mem_append] at h
    rcases h with h | h
    · exact integers_subset_of_stepsAny vs h
    · rw [eq_of_mem_name h]
      exact List.Subset.refl _
  | not v =>
    rw [steps, List.mem_append] at h
    rcases h with h | h
    · exact integers_subset v h
    · rw [eq_of_mem_name h]
      exact List.Subset.refl _

lemma integers_subset_of_stepsAll (vs : List Validator) (h : .name w ∈ stepsAll p vs) :
    w.integers ⊆ integersOf vs := by
  match vs with
  | [] => cases h
  | v :: vs =>
    rw [stepsAll, List.mem_append] at h
    rcases h with h | h
    · exact List.subset_append_of_subset_left _ (integers_subset v h)
    · split_ifs at h
      · exact List.subset_append_of_subset_right _ (integers_subset_of_stepsAll vs h)
      · cases h

lemma integers_subset_of_stepsAny (vs : List Validator) (h : .name w ∈ stepsAny p vs) :
    w.integers ⊆ integersOf vs := by
  match vs with
  | [] => cases h
  | v :: vs =>
    rw [stepsAny, List.mem_append] at h
    rcases h with h | h
    · exact List.subset_append_of_subset_left _ (integers_subset v h)
    · split_ifs at h
      · cases h
      · exact List.subset_append_of_subset_right _ (integers_subset_of_stepsAny vs h)

end

lemma isNameable_of_subset {v : Validator} (hsub : w.integers ⊆ v.integers)
    (hv : v.isNameable) : w.isNameable := by
  rw [isNameable, List.all_eq_true] at hv ⊢
  exact fun n hn => hv n (hsub hn)

/-- Where the name of a tree can be written, so can all names that a check needs. -/
lemma isNameable_of_mem_named {v : Validator} (hv : v.isNameable) (h : w ∈ v.named p) :
    w.isNameable :=
  isNameable_of_subset (integers_subset v (mem_named.mp h)) hv

end

/-! ### Verdicts -/

mutual

/-- The verdict of a tree if `look` tells those of its leaves. Only names can fail besides. -/
def judge (look : Leaf → Run Bool) : Validator → Run Bool
  | leaf l => look l
  | all vs => judgeAll look vs
  | any vs => do
    if vs.isEmpty || (← judgeAny look vs) then return true
    let _ ← .of (any vs).writeName
    return false
  | not v => do
    if !(← v.judge look) then return true
    let _ ← .of (not v).writeName
    return false

/-- Are all of several trees true? -/
def judgeAll (look : Leaf → Run Bool) : List Validator → Run Bool
  | [] => return true
  | v :: vs => do if ← v.judge look then judgeAll look vs else return false

/-- Is one of several trees true? -/
def judgeAny (look : Leaf → Run Bool) : List Validator → Run Bool
  | [] => return false
  | v :: vs => do if ← v.judge look then return true else judgeAny look vs

end

/-- Take a step, whatever comes of it. -/
def Step.take (look : Leaf → Run Bool) : Step → Run Unit
  | .look l => do let _ ← look l
  | .name v => do let _ ← .of v.writeName

/-- Take several steps. -/
def perform (look : Leaf → Run Bool) : List Step → Run Unit
  | [] => return ()
  | s :: ss => do
    s.take look
    perform look ss

/-- Does a leaf say yes? One that fails does not. -/
def affirms (look : Leaf → Run Bool) (l : Leaf) : Bool :=
  match (look l).result with
  | .ok b => b
  | .error _ => false

section

variable (look : Leaf → Run Bool)

lemma perform_append (ss ts : List Step) :
    perform look (ss ++ ts) = perform look ss >>= fun _ => perform look ts := by
  induction ss with
  | nil => simp [perform]
  | cons s ss ih => simp [perform, ih]

variable {look} {calls : Step → List String}

lemma perform_of_ok {ss : List Step} (h : ∀ s ∈ ss, s.take look = ⟨calls s, .ok ()⟩) :
    perform look ss = ⟨ss.flatMap calls, .ok ()⟩ := by
  induction ss with
  | nil => rfl
  | cons s ss ih =>
    rw [perform, h s (by simp), ih fun t ht => h t (by simp [ht])]
    simp

/-- The first step that fails is the last that is taken. -/
lemma perform_of_error {before : List Step} {s : Step} {f : Fault}
    (hbefore : ∀ t ∈ before, t.take look = ⟨calls t, .ok ()⟩)
    (hs : s.take look = ⟨calls s, .error f⟩) (after : List Step) :
    perform look (before ++ s :: after) = ⟨(before ++ [s]).flatMap calls, .error f⟩ := by
  rw [perform_append, perform_of_ok hbefore, perform, hs]
  simp

variable (look)

/-- An inner node that is false writes its name. -/
lemma perform_name (b : Bool) (v : Validator) :
    (perform look (if b then [] else [.name v]) >>= fun _ => (pure b : Run Bool)) =
      if b then pure true else (do let _ ← .of v.writeName; return false) := by
  cases b with
  | true => simp [perform]
  | false => simp [perform, Step.take]

/- What a node does after its first child depends only on the verdict of the child, which is known
beforehand. -/
mutual

/-- To judge a tree is to take its steps; then the verdict is its value. -/
lemma judge_eq (v : Validator) :
    v.judge look =
      perform look (v.steps (affirms look)) >>= fun _ => pure (v.eval (affirms look)) := by
  match v with
  | leaf l =>
    rw [judge, steps, eval, affirms, perform, perform, Step.take]
    rcases look l with ⟨trace, f | b⟩ <;> simp
  | all vs => exact judgeAll_eq vs
  | any vs =>
    have hvalue : eval (affirms look) (any vs) = (vs.isEmpty || evalAny (affirms look) vs) := rfl
    rw [judge, steps, judgeAny_eq vs, perform_append, bind_assoc, bind_assoc, hvalue]
    refine bind_congr fun _ => ?_
    rw [perform_name, pure_bind]
  | not v =>
    have hvalue : eval (affirms look) (not v) = !v.eval (affirms look) := rfl
    rw [judge, steps, judge_eq v, perform_append, bind_assoc, bind_assoc, hvalue]
    refine bind_congr fun _ => ?_
    rw [perform_name, pure_bind]

lemma judgeAll_eq (vs : List Validator) :
    judgeAll look vs =
      perform look (stepsAll (affirms look) vs) >>= fun _ => pure (evalAll (affirms look) vs) := by
  match vs with
  | [] => simp [judgeAll, stepsAll, evalAll, perform]
  | v :: vs =>
    rw [judgeAll, judge_eq v, judgeAll_eq vs, stepsAll, evalAll, perform_append, bind_assoc]
    cases v.eval (affirms look) <;> simp [perform]

lemma judgeAny_eq (vs : List Validator) :
    judgeAny look vs =
      perform look (stepsAny (affirms look) vs) >>= fun _ => pure (evalAny (affirms look) vs) := by
  match vs with
  | [] => simp [judgeAny, stepsAny, evalAny, perform]
  | v :: vs =>
    rw [judgeAny, judge_eq v, judgeAny_eq vs, stepsAny, evalAny, perform_append, bind_assoc]
    cases v.eval (affirms look) <;> simp [perform]

end

end

/-! ### Verdicts with one fault -/

section

variable {look : Leaf → Run Bool} {v : Validator} (hname : v.isNameable)

include hname

lemma take_of_mem_steps {s : Step} (hs : s ∈ v.steps (affirms look))
    (h : ∀ l, s = .look l → ∃ b, look l = ⟨[], .ok b⟩) : s.take look = ⟨[], .ok ()⟩ := by
  cases s with
  | look l =>
    obtain ⟨b, hb⟩ := h l rfl
    rw [Step.take, hb]
    rfl
  | name w =>
    rw [Step.take, writeName,
      Integer.writing_of_short (isNameable_of_mem_named hname (mem_named.mpr hs))]
    rfl

/-- If no visited leaf fails or calls anything, there is a verdict. -/
lemma judge_of_ok (h : ∀ l ∈ v.visited (affirms look), ∃ b, look l = ⟨[], .ok b⟩) :
    v.judge look = ⟨[], .ok (v.eval (affirms look))⟩ := by
  have hsteps : ∀ s ∈ v.steps (affirms look), s.take look = ⟨[], .ok ()⟩ := fun s hs =>
    take_of_mem_steps hname hs fun l hl => h l (mem_visited.mpr (hl ▸ hs))
  rw [judge_eq, perform_of_ok hsteps]
  simp

/-- If some visited leaf fails, and all that do fail alike, so does the tree. -/
lemma judge_of_error {fails : Leaf → Bool} {f : Fault}
    (hok : ∀ l ∈ v.visited (affirms look), fails l = false → ∃ b, look l = ⟨[], .ok b⟩)
    (herror : ∀ l ∈ v.visited (affirms look), fails l → look l = ⟨[], .error f⟩)
    (h : ∃ l ∈ v.visited (affirms look), fails l) : v.judge look = ⟨[], .error f⟩ := by
  obtain ⟨l, hl, hfails⟩ := h
  let stops : Step → Bool := fun s => s.leaf?.any fails
  -- the steps before the first one that fails are taken, and nothing after it matters
  cases hfind : (v.steps (affirms look)).find? stops with
  | none => exact absurd hfails (List.find?_eq_none.mp hfind _ (mem_visited.mp hl))
  | some s =>
    obtain ⟨hs, before, after, hsplit, hbefore⟩ := List.find?_eq_some_iff_append.mp hfind
    have hsteps : ∀ t ∈ before, t.take look = ⟨[], .ok ()⟩ := by
      intro t ht
      have hmem : t ∈ v.steps (affirms look) := by
        rw [hsplit]
        exact List.mem_append_left _ ht
      refine take_of_mem_steps hname hmem fun m hm => hok m (mem_visited.mpr (hm ▸ hmem)) ?_
      simpa [stops, hm, Step.leaf?] using hbefore t ht
    have hlast : s.take look = ⟨[], .error f⟩ := by
      cases s with
      | look m =>
        have hmem : m ∈ v.visited (affirms look) := by simp [mem_visited, hsplit]
        rw [Step.take, herror m hmem hs]
        rfl
      | name w => cases hs
    rw [judge_eq, hsplit, perform_of_error hsteps hlast]
    simp

/-- If all leaves that fail do so alike, a tree has a verdict unless it comes to one of them. -/
lemma judge_iff {fails : Leaf → Bool} {f : Fault}
    (hok : ∀ l ∈ v.visited (affirms look), fails l = false → ∃ b, look l = ⟨[], .ok b⟩)
    (herror : ∀ l ∈ v.visited (affirms look), fails l → look l = ⟨[], .error f⟩) :
    ((∃ b, v.judge look = ⟨[], .ok b⟩) ↔ ∀ l ∈ v.visited (affirms look), fails l = false) ∧
    ∀ g, (v.judge look).result = .error g ↔ (∃ l ∈ v.visited (affirms look), fails l) ∧ g = f := by
  by_cases hfails : ∃ l ∈ v.visited (affirms look), fails l
  · have hjudge := judge_of_error hname hok herror hfails
    obtain ⟨l, hl, hfail⟩ := hfails
    rw [hjudge]
    refine ⟨iff_of_false (by simp) fun hall => ?_, fun g => ?_⟩
    · rw [hall l hl] at hfail
      cases hfail
    · exact ⟨fun h => ⟨⟨l, hl, hfail⟩, (Except.error.inj h).symm⟩, fun h => by rw [h.2]⟩
  · have hnone : ∀ l ∈ v.visited (affirms look), fails l = false := by simpa using hfails
    have hjudge := judge_of_ok hname fun l hl => hok l hl (hnone l hl)
    rw [hjudge]
    exact ⟨iff_of_true ⟨_, rfl⟩ hnone, fun g => iff_of_false nofun fun h => hfails h.1⟩

end

/-! ### Checking is judging -/

/-- The verdict of a leaf on a text. -/
def verdict (value : String) (l : Leaf) : Run Bool := Outcome.isAccepted <$> (leaf l).run value

lemma affirms_verdict (value : String) : affirms (verdict value) = Leaf.accepts value := by
  funext l
  rw [affirms, verdict, run, Leaf.accepts]
  cases l.outcome value <;> simp

section

variable (value : String)

mutual

/-- The verdict of a check follows from those of the leaves. -/
lemma isAccepted_run (v : Validator) :
    Outcome.isAccepted <$> v.run value = v.judge (verdict value) := by
  match v with
  | leaf l => rw [judge, verdict]
  | all vs => exact isAccepted_runAll vs
  | any [] => simp [run, runAny, judge, judgeAny, Outcome.isAccepted]
  | any (w :: vs) =>
    rw [run, judge, runAny, judgeAny, map_bind, ← isAccepted_run w, ← isNone_runAny vs,
      bind_assoc, bind_map_left, bind_assoc]
    refine bind_congr fun o => ?_
    cases o with
    | accepted => simp [Outcome.isAccepted]
    | rejected why =>
      simp only [Outcome.isAccepted, bind_assoc, pure_bind, Bool.false_eq_true, if_false]
      rw [bind_map_left]
      refine bind_congr fun whys => ?_
      cases whys <;> simp [Outcome.isAccepted]
  | not v =>
    rw [run, judge, map_bind, ← isAccepted_run v, bind_map_left]
    refine bind_congr fun o => ?_
    cases o <;> simp [Outcome.isAccepted]

lemma isAccepted_runAll (vs : List Validator) :
    Outcome.isAccepted <$> runAll value vs = judgeAll (verdict value) vs := by
  match vs with
  | [] => simp [runAll, judgeAll, Outcome.isAccepted]
  | v :: vs =>
    rw [runAll, judgeAll, map_bind, ← isAccepted_run v, ← isAccepted_runAll vs, bind_map_left]
    refine bind_congr fun o => ?_
    cases o <;> simp [Outcome.isAccepted]

lemma isNone_runAny (vs : List Validator) :
    Option.isNone <$> runAny value vs = judgeAny (verdict value) vs := by
  match vs with
  | [] => simp [runAny, judgeAny]
  | v :: vs =>
    rw [runAny, judgeAny, map_bind, ← isAccepted_run v, ← isNone_runAny vs, bind_map_left]
    refine bind_congr fun o => ?_
    cases o with
    | accepted => simp [Outcome.isAccepted]
    | rejected why =>
      simp only [Outcome.isAccepted, map_bind, map_pure, Option.isNone_map]
      exact bind_pure_comp _ _

end

end

/-- A leaf that makes one demand accepts the values that meet it. -/
lemma run_leaf_of_require {value : String} {l : Leaf} {accepted : Bool} {code : Code}
    {params : Params} (hname : l.isNameable)
    (h : l.complaint? value = .ok (Leaf.require accepted code params)) :
    ∃ o, (leaf l).run value = ⟨l.calls, .ok o⟩ ∧ o.isAccepted = accepted := by
  rw [run, Leaf.outcome_of_isNameable hname, h]
  cases accepted <;> exact ⟨_, rfl, rfl⟩

/-! ### Checks of texts -/

section

variable {v : Validator} {value : String} {s : Step} {f : Fault}

lemma take_of_succeeds (h : s.Succeeds value) : s.take (verdict value) = ⟨s.calls, .ok ()⟩ := by
  cases s with
  | look l =>
    obtain ⟨o, ho⟩ := h
    simp [Step.take, verdict, run, ho, Step.calls]
  | name v =>
    rw [Step.take, writeName, Integer.writing_of_short h]
    rfl

lemma take_of_fails (h : s.Fails value f) : s.take (verdict value) = ⟨s.calls, .error f⟩ := by
  cases s with
  | look l =>
    have hl : l.outcome value = .error f := h
    simp [Step.take, verdict, run, hl, Step.calls]
  | name v =>
    obtain ⟨hlong, rfl⟩ := h
    rw [Step.take, writeName, Integer.writing_of_not_short hlong]
    rfl

lemma run_of_succeeds (h : ∀ s ∈ v.steps (Leaf.accepts value), s.Succeeds value) :
    ∃ o, v.run value = ⟨(v.visited (Leaf.accepts value)).flatMap Leaf.calls, .ok o⟩ ∧
      o.isAccepted = v.eval (Leaf.accepts value) := by
  have hrun := isAccepted_run value v
  rw [judge_eq, affirms_verdict, perform_of_ok fun s hs => take_of_succeeds (h s hs),
    ← calls_visited] at hrun
  exact Traced.eq_of_map_eq_ok (by simpa using hrun)

/-- The first step that fails ends the check. -/
lemma run_of_fails {before after : List Step}
    (hsplit : v.steps (Leaf.accepts value) = before ++ s :: after)
    (hbefore : ∀ t ∈ before, t.Succeeds value) (hs : s.Fails value f) :
    v.run value = ⟨(before ++ [s]).flatMap Step.calls, .error f⟩ := by
  have hrun := isAccepted_run value v
  rw [judge_eq, affirms_verdict, hsplit,
    perform_of_error (fun t ht => take_of_succeeds (hbefore t ht)) (take_of_fails hs)] at hrun
  exact Traced.eq_of_map_eq_error hrun

/-- Leaves that have outcomes and names that can be written are all that a check needs. -/
lemma succeeds_of_outcomes
    (hleaves : ∀ l ∈ v.visited (Leaf.accepts value), ∃ o, l.outcome value = .ok o)
    (hnames : ∀ w ∈ v.named (Leaf.accepts value), w.isNameable) :
    ∀ s ∈ v.steps (Leaf.accepts value), s.Succeeds value := by
  rintro (l | w) hs
  · exact hleaves l (mem_visited.mpr hs)
  · exact hnames w (mem_named.mpr hs)

end

/-! ### Deciding -/

/-- If no visited leaf calls anything or fails, a check leaves no trace, and its verdict is the
value of the expression. -/
lemma run_of_quiet {v : Validator} {value : String} (hname : v.isNameable)
    (h : ∀ l ∈ v.visited (Leaf.accepts value), l.calls = [] ∧ ∃ o, l.outcome value = .ok o) :
    ∃ o, v.run value = ⟨[], .ok o⟩ ∧ o.isAccepted = v.eval (Leaf.accepts value) := by
  have hcalls : (v.visited (Leaf.accepts value)).flatMap Leaf.calls = [] :=
    List.flatMap_eq_nil_iff.mpr fun l hl => (h l hl).1
  rw [← hcalls]
  exact run_of_succeeds (succeeds_of_outcomes (fun l hl => (h l hl).2)
    fun w hw => isNameable_of_mem_named hname hw)

/-- A validator accepts the values with a property, and nothing is called to find that out. -/
def Decides (v : Validator) (P : String → Prop) : Prop :=
  ∀ value, ∃ o, v.run value = ⟨[], .ok o⟩ ∧ (o.isAccepted ↔ P value)

/-- Two validators give the same verdict on every value. -/
def Agree (v w : Validator) : Prop :=
  ∀ value, ∃ o o', v.run value = ⟨[], .ok o⟩ ∧ w.run value = ⟨[], .ok o'⟩ ∧
    (o.isAccepted ↔ o'.isAccepted)

lemma Decides.agree {v w : Validator} {P : String → Prop} (hv : v.Decides P) (hw : w.Decides P) :
    v.Agree w := by
  intro value
  obtain ⟨o, hrun, ho⟩ := hv value
  obtain ⟨o', hrun', ho'⟩ := hw value
  exact ⟨o, o', hrun, hrun', ho.trans ho'.symm⟩

lemma Decides.congr {v : Validator} {P Q : String → Prop} (h : v.Decides P)
    (hiff : ∀ value, P value ↔ Q value) : v.Decides Q := by
  intro value
  obtain ⟨o, hrun, ho⟩ := h value
  exact ⟨o, hrun, ho.trans (hiff value)⟩

lemma decides_of_require {l : Leaf} {P : String → Prop} {accepted : String → Bool} {code : Code}
    {params : Params} (hcalls : l.calls = []) (hname : l.isNameable)
    (h : ∀ value, l.complaint? value = .ok (Leaf.require (accepted value) code params))
    (haccepted : ∀ value, accepted value ↔ P value) : (leaf l).Decides P := by
  intro value
  obtain ⟨o, hrun, ho⟩ := run_leaf_of_require hname (h value)
  rw [hcalls] at hrun
  exact ⟨o, hrun, by rw [ho, haccepted]⟩

/-! ### Verdicts and traces -/

/-- If all visited leaves return and the names that are needed can be written, the verdict of a
check is the value of the expression and the trace has the calls of all visited leaves. Otherwise
the check fails with the first leaf or name that does, and calls nothing after it; names can only
fail for integers that are too long. A custom leaf rejects what its function refuses or answers
with false, and fails where its function raises anything else. -/
theorem run_eq_eval (value : String) (v : Validator) :
    ((∀ l ∈ v.visited (Leaf.accepts value), ∃ o, l.outcome value = .ok o) →
      (∀ w ∈ v.named (Leaf.accepts value), w.isNameable) →
      ∃ o, v.run value = ⟨(v.visited (Leaf.accepts value)).flatMap Leaf.calls, .ok o⟩ ∧
        o.isAccepted = v.eval (Leaf.accepts value)) ∧
    (∀ before s after f, v.steps (Leaf.accepts value) = before ++ s :: after →
      (∀ t ∈ before, t.Succeeds value) → s.Fails value f →
      v.run value = ⟨(before ++ [s]).flatMap Step.calls, .error f⟩) ∧
    (v.isNameable → ∀ w ∈ v.named (Leaf.accepts value), w.isNameable) ∧
    (∀ label check,
      ((∃ why, (Leaf.custom label (some check)).outcome value = .ok (.rejected why)) ↔
        (∃ text, check.run value = .raised .unsuitable text) ∨
        (∃ text, check.run value = .raised .wrongType text) ∨
        check.run value = .returned (.bool false)) ∧
      ∀ f, (Leaf.custom label (some check)).outcome value = .error f ↔
        ∃ kind text, check.run value = .raised (.other kind) text ∧ f = .raised kind text) ∧
    ∀ label, (Leaf.custom label none).outcome value = .ok .accepted := by
  refine ⟨fun hleaves hnames => run_of_succeeds (succeeds_of_outcomes hleaves hnames),
    fun _ _ _ _ => run_of_fails, fun hv _ => isNameable_of_mem_named hv, ?_, fun _ => rfl⟩
  intro label check
  exact ⟨Leaf.custom_rejects_iff value label check, Leaf.custom_fails_iff value label check⟩

/-- A disjunction that stops before its last child, and one that fails within its second. -/
theorem run_eq_eval_custom :
    let yes : Check := ⟨0, fun _ => .returned .absent⟩
    let no : Check := ⟨1, fun _ => .raised .unsuitable "no"⟩
    let broken : Check := ⟨2, fun _ => .raised (.other "RuntimeError") "broken"⟩
    (∃ o, (any [leaf (.custom "a" no), not (all [any [], leaf (.custom "b" yes)]),
        not (leaf (.custom "c" no)), leaf (.custom "d" broken)]).run "x" =
          ⟨["a", "b", "c"], .ok o⟩ ∧ o.isAccepted = true) ∧
    (any [leaf (.custom "a" no), all [leaf (.custom "b" yes), leaf (.custom "c" broken)],
        leaf (.custom "d" yes)]).run "x" =
      ⟨["a", "b", "c"], .error (.raised "RuntimeError" "broken")⟩ := by
  intro yes no broken
  constructor
  · obtain ⟨hok, -, hnames, -⟩ := run_eq_eval "x" (any [leaf (.custom "a" no),
      not (all [any [], leaf (.custom "b" yes)]), not (leaf (.custom "c" no)),
      leaf (.custom "d" broken)])
    refine hok ?_ (hnames rfl)
    intro l hl
    have hmem : l ∈ [Leaf.custom "a" no, .custom "b" yes, .custom "c" no] := hl
    simp only [List.mem_cons, List.not_mem_nil, or_false] at hmem
    rcases hmem with rfl | rfl | rfl <;> exact ⟨_, rfl⟩
  · apply (run_eq_eval "x" _).2.1 [.look (.custom "a" no), .look (.custom "b" yes)]
      (.look (.custom "c" broken)) [.look (.custom "d" yes)] _ rfl
    · simp only [List.forall_mem_cons]
      exact ⟨⟨_, rfl⟩, ⟨_, rfl⟩, by simp⟩
    · rfl

/-- The one visited leaf accepts the value, and yet the check fails: the negation needs a name with
an integer that is too long. -/
theorem not_run_eq_eval_long :
    let l : Leaf := .length .characters none (some (Nat.pow 10 Integer.digitLimit : Nat))
    (∀ m ∈ (not (leaf l)).visited (Leaf.accepts "x"), m.outcome "x" = .ok .accepted) ∧
      (not (leaf l)).run "x" = ⟨[], .error .tooLongToWrite⟩ := by
  intro l
  have hpos (k : Nat) : 1 ≤ Nat.pow 10 k := Nat.pow_pos (by decide)
  have hcomplaint : l.complaint? "x" = .ok none := by
    have hmost : ((LengthUnit.size .characters "x" : Nat) : Int) ≤
        (Nat.pow 10 Integer.digitLimit : Nat) := Int.ofNat_le.mpr (hpos _)
    rw [Leaf.complaint?_length, Leaf.lengthComplaint?, Leaf.require, if_pos (decide_eq_true hmost)]
  have houtcome : l.outcome "x" = .ok .accepted := by rw [Leaf.outcome_eq, hcomplaint]
  have hlong : (not (leaf l)).isNameable = false := by
    show (Integer.isShort (Nat.pow 10 Integer.digitLimit : Nat) && true) = false
    rw [Integer.isShort_pow_digitLimit]
    rfl
  have haccepts : Leaf.accepts "x" l = true := by rw [Leaf.accepts_of_outcome houtcome]; rfl
  have hsteps : (not (leaf l)).steps (Leaf.accepts "x") = [.look l] ++ [.name (not (leaf l))] := by
    simp [steps, eval, haccepts]
  constructor
  · intro m hm
    obtain rfl : m = l := by simpa [visited, hsteps, Step.leaf?] using hm
    exact houtcome
  · exact run_of_fails hsteps (by simpa [Step.Succeeds] using ⟨_, houtcome⟩) ⟨hlong, rfl⟩

end Validator

end ValueSpec
