import ValueSpec.Proofs.Refutations

namespace ValueSpec

/-! ### Bounds -/

/-- Where a number lies: below, among or above the finite numbers, and how many units from zero.
What is no number lies nowhere. -/
def Binary64.place? : Binary64 → Option (Int × Int)
  | nan => none
  | infinite true => some (-1, 0)
  | infinite false => some (1, 0)
  | finite s m e => some (0, units s m e)

/-- One place comes before another one or is the same. -/
def UpTo (p q : Int × Int) : Prop := p.1 < q.1 ∨ (p.1 = q.1 ∧ p.2 ≤ q.2)

lemma UpTo.antisymm {p q : Int × Int} (h : UpTo p q) (h' : UpTo q p) : p = q := by
  unfold UpTo at h h'
  exact Prod.ext (by omega) (by omega)

lemma Binary64.le_iff_upTo {x y : Binary64} :
    x.le y ↔ ∃ p ∈ x.place?, ∃ q ∈ y.place?, UpTo p q := by
  rcases x with _ | (_ | _) | ⟨s, m, e⟩ <;> rcases y with _ | (_ | _) | ⟨s', m', e'⟩ <;>
    simp [le, place?, UpTo]

namespace Bound

/-- Where a bound lies. -/
def place? : Bound → Option (Int × Int)
  | int n => some (0, Binary64.unitsOfInt n)
  | real x => x.place?

/-- Two bounds are equal if they are the same number or one and the same bound. So a bound that is
no number equals itself. -/
def Equal (b c : Bound) : Prop := b = c ∨ b.same c

variable {b c : Bound} {x : Binary64}

lemma atMost_iff : b.atMost x ↔ ∃ p ∈ b.place?, ∃ q ∈ x.place?, UpTo p q := by
  cases b with
  | int n =>
    rcases x with _ | (_ | _) | ⟨s, m, e⟩ <;> simp [atMost, place?, Binary64.place?, UpTo]
  | real y => exact Binary64.le_iff_upTo

lemma atLeast_iff : b.atLeast x ↔ ∃ q ∈ x.place?, ∃ p ∈ b.place?, UpTo q p := by
  cases b with
  | int n =>
    rcases x with _ | (_ | _) | ⟨s, m, e⟩ <;> simp [atLeast, place?, Binary64.place?, UpTo]
  | real y => exact Binary64.le_iff_upTo

/-- A bound that is both at most and at least a number lies where the number does. -/
lemma place?_eq (hmost : b.atMost x) (hleast : b.atLeast x) : b.place? = x.place? := by
  obtain ⟨p, hp, q, hq, hle⟩ := atMost_iff.mp hmost
  obtain ⟨q', hq', p', hp', hge⟩ := atLeast_iff.mp hleast
  obtain rfl := Option.mem_unique hp hp'
  obtain rfl := Option.mem_unique hq hq'
  rw [hp, hq, hle.antisymm hge]

/-- Equal bounds lie at the same place. -/
lemma Equal.place?_eq (h : b.Equal c) : b.place? = c.place? := by
  rcases h with rfl | hsame
  · rfl
  · unfold same at hsame
    split at hsame
    case h_1 m n =>
      rw [of_decide_eq_true hsame]
    case h_2 y =>
      simp only [Bool.and_eq_true] at hsame
      exact Bound.place?_eq hsame.1.2 hsame.2
    case h_3 y _ =>
      simp only [Bool.and_eq_true] at hsame
      exact (Bound.place?_eq hsame.1.2 hsame.2).symm

/-- Equal bounds can both be written or neither. -/
lemma Equal.isShort_eq (h : b.Equal c) : b.isShort = c.isShort := by
  rcases h with rfl | hsame
  · rfl
  · unfold same at hsame
    split at hsame
    case h_1 m n =>
      rw [of_decide_eq_true hsame]
    case h_2 y =>
      simp only [Bool.and_eq_true] at hsame
      exact hsame.1.1
    case h_3 y _ =>
      simp only [Bool.and_eq_true] at hsame
      exact hsame.1.1.symm

lemma Equal.atMost_eq (h : b.Equal c) (x : Binary64) : b.atMost x = c.atMost x := by
  rw [Bool.eq_iff_iff, atMost_iff, atMost_iff, h.place?_eq]

lemma Equal.atLeast_eq (h : b.Equal c) (x : Binary64) : b.atLeast x = c.atLeast x := by
  rw [Bool.eq_iff_iff, atLeast_iff, atLeast_iff, h.place?_eq]

end Bound

/-! ### Leaves -/

namespace Leaf

/-- Two leaves are equal if they are of one kind and have equal parameters. -/
inductive Equal : Leaf → Leaf → Prop
  | refl (l : Leaf) : Equal l l
  | range {least least' most most' : Option Bound} : Option.Rel Bound.Equal least least' →
      Option.Rel Bound.Equal most most' → Equal (range least most) (range least' most')
  | custom {label : String} {c d : Check} : c.id = d.id →
      Equal (custom label (some c)) (custom label (some d))

lemma rel_of_sameBound {b c : Option Bound} (h : sameBound b c) : Option.Rel Bound.Equal b c := by
  rcases b with _ | b <;> rcases c with _ | c
  · exact .none
  · cases h
  · cases h
  · exact .some (.inr h)

/-- Leaves that compare as equal are equal. What is compiled of a pattern follows from its text. -/
lemma Equal.of_same {l m : Leaf} (h : l.same m) : l.Equal m := by
  unfold same at h
  split at h
  case h_2 lo hi lo' hi' =>
    obtain ⟨hleast, hmost⟩ := (Bool.and_eq_true _ _).mp h
    exact .range (rel_of_sameBound hleast) (rel_of_sameBound hmost)
  case h_20 p q =>
    obtain ⟨hsource, hdescription⟩ : p.source = q.source ∧ p.description = q.description := by
      simpa using h
    rw [Pattern.ext_source hsource hdescription]
    exact .refl _
  case h_21 label check label' check' =>
    obtain ⟨rfl, hcheck⟩ : label = label' ∧ sameCheck check check' := by simpa using h
    rcases check with _ | c <;> rcases check' with _ | d
    · exact .refl _
    · cases hcheck
    · cases hcheck
    · exact .custom (of_decide_eq_true hcheck)
  case h_22 => cases h
  -- all other parameters are compared as they are
  all_goals
    simp_all [Equal.refl]

/-- The custom function of a leaf. -/
def check? : Leaf → Option Check
  | custom _ check => check
  | _ => none

/-- The code of the complaint about a value. -/
def code? (value : String) (l : Leaf) : Except Fault (Option Code) :=
  (l.complaint? value).map (·.map Prod.fst)

lemma map_fst_require (accepted : Bool) (code : Code) (params : Params) :
    (require accepted code params).map Prod.fst = if accepted then none else some code := by
  cases accepted <;> rfl

lemma code?_rangeComplaint? {least least' most most' : Option Bound}
    (hleast : Option.Rel Bound.Equal least least') (hmost : Option.Rel Bound.Equal most most')
    (x : Binary64) :
    (rangeComplaint? least most x).map Prod.fst =
      (rangeComplaint? least' most' x).map Prod.fst := by
  cases hleast with
  | none =>
    cases hmost with
    | none => rfl
    | some hhi => simp only [rangeComplaint?, map_fst_require, hhi.atLeast_eq]
  | some hlo =>
    cases hmost with
    | none => simp only [rangeComplaint?, map_fst_require, hlo.atMost_eq]
    | some hhi => simp only [rangeComplaint?, map_fst_require, hlo.atMost_eq, hhi.atLeast_eq]

/-- Equal leaves complain about the same values, with the same codes. -/
lemma Equal.code?_eq {l m : Leaf} (h : l.Equal m)
    (hchecks : ∀ c ∈ l.check?, ∀ d ∈ m.check?, c.id = d.id → c.run = d.run) (value : String) :
    l.code? value = m.code? value := by
  cases h with
  | refl => rfl
  | range hleast hmost =>
    rw [code?, code?, complaint?, complaint?]
    cases Binary64.read? value with
    | none => rfl
    | some x => exact congrArg Except.ok (code?_rangeComplaint? hleast hmost x)
  | custom hid =>
    rw [code?, code?, complaint?, complaint?, hchecks _ rfl _ rfl hid]

lemma Equal.calls_eq {l m : Leaf} (h : l.Equal m) : l.calls = m.calls := by
  cases h <;> rfl

lemma isNameable_range (least most : Option Bound) :
    (range least most).isNameable = (least.all Bound.isShort && most.all Bound.isShort) := by
  cases least <;> cases most <;> simp [isNameable, integers, Bound.isShort]

lemma Equal.isNameable_eq {l m : Leaf} (h : l.Equal m) : l.isNameable = m.isNameable := by
  have hbounds {b c : Option Bound} (h : Option.Rel Bound.Equal b c) :
      b.all Bound.isShort = c.all Bound.isShort := by
    cases h with
    | none => rfl
    | some h => exact h.isShort_eq
  cases h with
  | refl => rfl
  | range hleast hmost => rw [isNameable_range, isNameable_range, hbounds hleast, hbounds hmost]
  | custom hid => rfl

end Leaf

/-! ### Rejections -/

/-- Two rejections of one value with the same codes at every level, and as many causes. -/
inductive Rejection.Alike : Rejection → Rejection → Prop
  | intro {why why' : Rejection} : why.code = why'.code → why.value = why'.value →
      List.Forall₂ Alike why.causes why'.causes → Alike why why'

/-- Both outcomes accept a value, or they reject it alike. -/
inductive Outcome.Alike : Outcome → Outcome → Prop
  | accepted : Alike accepted accepted
  | rejected {why why' : Rejection} : why.Alike why' → Alike (rejected why) (rejected why')

/-! ### Computations -/

/-- Two computations leave the same trace, and they fail in the same way or have related results. -/
inductive Traced.Related {τ ε α β : Type} (R : α → β → Prop) : Traced τ ε α → Traced τ ε β → Prop
  | error (trace : List τ) (e : ε) : Related R ⟨trace, .error e⟩ ⟨trace, .error e⟩
  | ok (trace : List τ) {a : α} {b : β} : R a b → Related R ⟨trace, .ok a⟩ ⟨trace, .ok b⟩

namespace Traced.Related

variable {τ ε α β γ δ : Type} {R : α → β → Prop} {S : γ → δ → Prop}

lemma pure {a : α} {b : β} (h : R a b) :
    Related R (Pure.pure a : Traced τ ε α) (Pure.pure b : Traced τ ε β) := .ok [] h

/-- What follows related results may depend on them as long as it is related again. -/
lemma bind {r : Traced τ ε α} {r' : Traced τ ε β} {f : α → Traced τ ε γ} {g : β → Traced τ ε δ}
    (hr : Related R r r') (hfg : ∀ a b, R a b → Related S (f a) (g b)) :
    Related S (r >>= f) (r' >>= g) := by
  cases hr with
  | error trace e => exact .error trace e
  | @ok trace a b hab =>
    have hrest := hfg a b hab
    rw [bind_ok, bind_ok]
    generalize f a = rest at hrest ⊢
    generalize g b = rest' at hrest ⊢
    cases hrest with
    | error trace' e => exact .error _ e
    | ok trace' h => exact .ok _ h

end Traced.Related

namespace Validator

/-! ### Trees -/

mutual

/-- Two trees of the same shape whose leaves are related one by one. -/
inductive Matches (R : Leaf → Leaf → Prop) : Validator → Validator → Prop
  | leaf {l m : Leaf} : R l m → Matches R (leaf l) (leaf m)
  | all {vs ws : List Validator} : MatchesAll R vs ws → Matches R (all vs) (all ws)
  | any {vs ws : List Validator} : MatchesAll R vs ws → Matches R (any vs) (any ws)
  | not {v w : Validator} : Matches R v w → Matches R (not v) (not w)

/-- As many trees, related one by one. -/
inductive MatchesAll (R : Leaf → Leaf → Prop) : List Validator → List Validator → Prop
  | nil : MatchesAll R [] []
  | cons {v w : Validator} {vs ws : List Validator} : Matches R v w → MatchesAll R vs ws →
      MatchesAll R (v :: vs) (w :: ws)

end

section

variable {R S : Leaf → Leaf → Prop}

mutual

/-- Leaves that are related in one way may be related in another one. -/
lemma Matches.imp {v w : Validator} (h : Matches R v w)
    (himp : ∀ l ∈ v.leaves, ∀ m ∈ w.leaves, R l m → S l m) : Matches S v w := by
  match v with
  | leaf l =>
    cases h with
    | leaf h => exact .leaf (himp l (by simp [leaves]) _ (by simp [leaves]) h)
  | all vs =>
    cases h with
    | all h => exact .all (MatchesAll.imp h himp)
  | any vs =>
    cases h with
    | any h => exact .any (MatchesAll.imp h himp)
  | not v =>
    cases h with
    | not h => exact .not (Matches.imp h himp)

lemma MatchesAll.imp {vs ws : List Validator} (h : MatchesAll R vs ws)
    (himp : ∀ l ∈ leavesAll vs, ∀ m ∈ leavesAll ws, R l m → S l m) : MatchesAll S vs ws := by
  match vs with
  | [] =>
    cases h with
    | nil => exact .nil
  | v :: vs =>
    cases h with
    | cons h hs =>
      exact .cons
        (Matches.imp h fun l hl m hm =>
          himp l (List.mem_append_left _ hl) m (List.mem_append_left _ hm))
        (MatchesAll.imp hs fun l hl m hm =>
          himp l (List.mem_append_right _ hl) m (List.mem_append_right _ hm))

end

end

mutual

/-- Trees that compare as equal have the same shape and leaves that compare as equal. -/
lemma matches_of_same {v w : Validator} (h : v.same w) :
    Matches (fun l m => l.same m) v w := by
  match v with
  | leaf l =>
    cases w with
    | leaf m => exact .leaf h
    | _ => cases h
  | all vs =>
    cases w with
    | all ws => exact .all (matchesAll_of_sameAll h)
    | _ => cases h
  | any vs =>
    cases w with
    | any ws => exact .any (matchesAll_of_sameAll h)
    | _ => cases h
  | not v =>
    cases w with
    | not w => exact .not (matches_of_same h)
    | _ => cases h

lemma matchesAll_of_sameAll {vs ws : List Validator} (h : sameAll vs ws) :
    MatchesAll (fun l m => l.same m) vs ws := by
  match vs with
  | [] =>
    cases ws with
    | nil => exact .nil
    | cons w ws => cases h
  | v :: vs =>
    cases ws with
    | nil => cases h
    | cons w ws =>
      obtain ⟨hv, hvs⟩ := (Bool.and_eq_true _ _).mp h
      exact .cons (matches_of_same hv) (matchesAll_of_sameAll hvs)

end

/-! ### Names -/

mutual

lemma Matches.isNameable_eq {v w : Validator}
    (h : Matches (fun l m => l.isNameable = m.isNameable) v w) : v.isNameable = w.isNameable := by
  match v with
  | leaf l =>
    cases h with
    | leaf h => exact h
  | all vs =>
    cases h with
    | all h => exact MatchesAll.isNameable_eq h
  | any vs =>
    cases h with
    | any h => exact MatchesAll.isNameable_eq h
  | not v =>
    cases h with
    | not h =>
      have hchild := Matches.isNameable_eq h
      exact hchild

lemma MatchesAll.isNameable_eq {vs ws : List Validator}
    (h : MatchesAll (fun l m => l.isNameable = m.isNameable) vs ws) :
    (integersOf vs).all Integer.isShort = (integersOf ws).all Integer.isShort := by
  match vs with
  | [] =>
    cases h with
    | nil => rfl
  | v :: vs =>
    cases h with
    | cons h hs =>
      rw [integersOf, integersOf, List.all_append, List.all_append,
        MatchesAll.isNameable_eq hs]
      exact congrArg (· && _) (Matches.isNameable_eq h)

end

/-! ### Checking values -/

/-- Two leaves check a value alike, and their names can both be written or neither. -/
structure Alike (value : String) (l m : Leaf) : Prop where
  name : l.isNameable = m.isNameable
  run : Traced.Related Outcome.Alike ((leaf l).run value) ((leaf m).run value)

section

variable {value : String}

/-- Leaves that call the same and complain with the same code check a value alike. -/
lemma alike_leaf {l m : Leaf} (hname : l.isNameable = m.isNameable) (hcalls : l.calls = m.calls)
    (hcode : l.code? value = m.code? value) : Alike value l m := by
  refine ⟨hname, ?_⟩
  rw [run, run, hcalls, Leaf.outcome_eq, Leaf.outcome_eq]
  rw [Leaf.code?, Leaf.code?] at hcode
  generalize l.complaint? value = answer at hcode ⊢
  generalize m.complaint? value = answer' at hcode ⊢
  rcases answer with f | _ | ⟨code, params⟩ <;>
    rcases answer' with f' | _ | ⟨code', params'⟩ <;> cases hcode
  · exact .error _ f
  · exact .ok _ .accepted
  · cases hl : l.isNameable with
    | true =>
      rw [Integer.writing_of_short hl, Integer.writing_of_short (hname.symm.trans hl)]
      exact .ok _ (.rejected (.intro rfl rfl .nil))
    | false =>
      rw [Integer.writing_of_not_short hl, Integer.writing_of_not_short (hname.symm.trans hl)]
      exact .error _ _

/-- Where the names of two trees are needed, both can be written or neither. -/
lemma related_writeName {v w : Validator} (hname : v.isNameable = w.isNameable)
    {g g' : String → Outcome} (h : (g v.name).Alike (g' w.name)) :
    Traced.Related Outcome.Alike
      (do
        let validator ← .of v.writeName
        return g validator : Run Outcome)
      (do
        let validator ← .of w.writeName
        return g' validator : Run Outcome) := by
  rw [writeName, writeName]
  cases hv : v.isNameable with
  | true =>
    rw [Integer.writing_of_short hv, Integer.writing_of_short (hname.symm.trans hv)]
    exact .ok _ h
  | false =>
    rw [Integer.writing_of_not_short hv, Integer.writing_of_not_short (hname.symm.trans hv)]
    exact .error _ _

mutual

/-- Trees whose leaves check a value alike check it alike. -/
lemma Matches.related_run {v w : Validator}
    (h : Matches (Alike value) v w) :
    Traced.Related Outcome.Alike (v.run value) (w.run value) := by
  match v with
  | leaf l =>
    cases h with
    | leaf h => exact h.run
  | all vs =>
    cases h with
    | all h => exact MatchesAll.related_runAll h
  | any vs =>
    -- alike trees have the same name, so either both can be named or none
    have hname := Matches.isNameable_eq (h.imp fun _ _ _ _ hleaf => hleaf.name)
    cases h with
    | any h =>
      rw [run, run]
      refine (MatchesAll.related_runAny h).bind fun whys whys' hwhys => ?_
      cases hwhys with
      | none => exact .pure .accepted
      | some hwhys =>
        cases hwhys with
        | nil => exact .pure .accepted
        | cons hwhy hothers =>
          exact related_writeName hname (.rejected (.intro rfl rfl (.cons hwhy hothers)))
  | not v =>
    have hname := Matches.isNameable_eq (h.imp fun _ _ _ _ hleaf => hleaf.name)
    cases h with
    | not h =>
      rw [run, run]
      refine (Matches.related_run h).bind fun o o' ho => ?_
      cases ho with
      | accepted => exact related_writeName hname (.rejected (.intro rfl rfl .nil))
      | rejected hwhy => exact .pure .accepted

lemma MatchesAll.related_runAll {vs ws : List Validator}
    (h : MatchesAll (Alike value) vs ws) :
    Traced.Related Outcome.Alike (runAll value vs) (runAll value ws) := by
  match vs with
  | [] =>
    cases h with
    | nil => exact .pure .accepted
  | v :: vs =>
    cases h with
    | cons h hs =>
      rw [runAll, runAll]
      refine (Matches.related_run h).bind fun o o' ho => ?_
      cases ho with
      | accepted => exact MatchesAll.related_runAll hs
      | rejected hwhy => exact .pure (.rejected hwhy)

lemma MatchesAll.related_runAny {vs ws : List Validator}
    (h : MatchesAll (Alike value) vs ws) :
    Traced.Related (Option.Rel (List.Forall₂ Rejection.Alike)) (runAny value vs)
      (runAny value ws) := by
  match vs with
  | [] =>
    cases h with
    | nil => exact .pure (.some .nil)
  | v :: vs =>
    cases h with
    | cons h hs =>
      rw [runAny, runAny]
      refine (Matches.related_run h).bind fun o o' ho => ?_
      cases ho with
      | accepted => exact .pure .none
      | rejected hwhy =>
        refine (MatchesAll.related_runAny hs).bind fun whys whys' hwhys => .pure ?_
        cases hwhys with
        | none => exact .none
        | some hwhys => exact .some (.cons hwhy hwhys)

end

end

/-! ### Equality -/

/-- Two validators are equal if they are trees of the same shape with equal leaves. -/
def Equal (v w : Validator) : Prop := Matches Leaf.Equal v w

/-- The custom functions of a validator. -/
def checks (v : Validator) : List Check := v.leaves.filterMap Leaf.check?

mutual

lemma equal_refl (v : Validator) : v.Equal v := by
  match v with
  | leaf l => exact .leaf (.refl l)
  | all vs => exact .all (matchesAll_refl vs)
  | any vs => exact .any (matchesAll_refl vs)
  | not v => exact .not (equal_refl v)

lemma matchesAll_refl (vs : List Validator) : MatchesAll Leaf.Equal vs vs := by
  match vs with
  | [] => exact .nil
  | v :: vs => exact .cons (equal_refl v) (matchesAll_refl vs)

end

/-- Equal validators check a value alike if their custom functions do. -/
lemma Equal.related_run {v w : Validator} (h : v.Equal w)
    (hchecks : ∀ c ∈ v.checks, ∀ d ∈ w.checks, c.id = d.id → c.run = d.run) (value : String) :
    Traced.Related Outcome.Alike (v.run value) (w.run value) := by
  refine Matches.related_run (Matches.imp h fun l hl m hm hequal => ?_)
  have hleaf : ∀ c ∈ l.check?, ∀ d ∈ m.check?, c.id = d.id → c.run = d.run := fun c hc d hd =>
    hchecks c (List.mem_filterMap.mpr ⟨l, hl, hc⟩) d (List.mem_filterMap.mpr ⟨m, hm, hd⟩)
  exact alike_leaf hequal.isNameable_eq hequal.calls_eq (hequal.code?_eq hleaf value)

/-- What compares as equal is equal, and so is every validator to itself. Where custom functions
with one identity are one function, equal validators call the same functions on every value, and
they both fail with the same fault, both accept it, or both reject it with the same codes and as
many causes at every level. -/
theorem equal_run :
    (∀ v w : Validator, v.same w → v.Equal w) ∧ (∀ v : Validator, v.Equal v) ∧
    ∀ v w : Validator, v.Equal w →
      (∀ c ∈ v.checks, ∀ d ∈ w.checks, c.id = d.id → c.run = d.run) →
      ∀ value, (v.run value).trace = (w.run value).trace ∧
        ((∃ f, (v.run value).result = .error f ∧ (w.run value).result = .error f) ∨
          (v.Gives value .accepted ∧ w.Gives value .accepted) ∨
          ∃ why why', v.Gives value (.rejected why) ∧ w.Gives value (.rejected why') ∧
            why.Alike why') := by
  refine ⟨fun v w h => ?_, equal_refl, fun v w h hchecks value => ?_⟩
  · exact (matches_of_same h).imp fun l _ m _ hsame => .of_same hsame
  · have hrelated := h.related_run hchecks value
    simp only [Gives]
    generalize v.run value = r at hrelated ⊢
    generalize w.run value = r' at hrelated ⊢
    cases hrelated with
    | error trace f => exact ⟨rfl, .inl ⟨f, rfl, rfl⟩⟩
    | ok trace ho =>
      cases ho with
      | accepted => exact ⟨rfl, .inr (.inl ⟨rfl, rfl⟩)⟩
      | rejected hwhy => exact ⟨rfl, .inr (.inr ⟨_, _, rfl, rfl, hwhy⟩)⟩

/-- A zero as an integer and as a number with a minus, and a bound that is no number. -/
theorem equal_run_zero :
    let zero : Bound := .real (.finite true 0 Binary64.minExponent)
    let check : Check := ⟨7, fun _ => .returned (.bool false)⟩
    let tree (b : Bound) : Validator :=
      any [leaf (.range (some b) (some (.real .nan))), all [leaf (.custom "c" (some check))]]
    (leaf (.range (some (.int 0)) none)).same (leaf (.range (some zero) none)) ∧
    (leaf (.range (some (.int 0)) none)).Equal (leaf (.range (some zero) none)) ∧
    (tree (.int 0)).Equal (tree zero) ∧ ¬ (tree (.int 0)).same (tree (.int 0)) ∧
    (∀ c ∈ (tree (.int 0)).checks, ∀ d ∈ (tree zero).checks, c.id = d.id → c.run = d.run) ∧
    ((tree (.int 0)).run "x").trace = ((tree zero).run "x").trace ∧
    ∃ why why', (tree (.int 0)).Gives "x" (.rejected why) ∧ (tree zero).Gives "x" (.rejected why') ∧
      why.Alike why' := by
  intro zero check tree
  have hzero : (Bound.int 0).same zero := by decide +kernel
  have hsame : (leaf (.range (some (.int 0)) none)).same (leaf (.range (some zero) none)) := by
    decide +kernel
  have hequal : (tree (.int 0)).Equal (tree zero) :=
    .any (.cons (.leaf (.range (.some (.inr hzero)) (.some (.inl rfl))))
      (.cons (equal_refl _) .nil))
  have hchecks : ∀ c ∈ (tree (.int 0)).checks, ∀ d ∈ (tree zero).checks, c.id = d.id →
      c.run = d.run := by
    intro c hc d hd _
    obtain rfl : check = c := by simpa [tree, checks, leaves, leavesAll, Leaf.check?] using hc
    obtain rfl : check = d := by simpa [tree, checks, leaves, leavesAll, Leaf.check?] using hd
    rfl
  obtain ⟨htrace, hresult⟩ := equal_run.2.2 _ _ hequal hchecks "x"
  refine ⟨hsame, equal_run.1 _ _ hsame, hequal, by decide, hchecks, htrace, ?_⟩
  rcases hresult with ⟨f, hf, -⟩ | ⟨haccepted, -⟩ | hrejected
  · cases hf
  · cases haccepted
  · exact hrejected

end Validator

end ValueSpec
