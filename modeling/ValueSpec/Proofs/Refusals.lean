import ValueSpec.Proofs.Building
import ValueSpec.Proofs.Rendering

namespace ValueSpec

/-! ### Errors of one kind -/

/-- A result that is no error but one of a kind. -/
def FailsOnly {ε α : Type} (P : ε → Prop) (r : Except ε α) : Prop := ∀ e, r = .error e → P e

namespace FailsOnly

variable {ε α β : Type} {P : ε → Prop}

lemma ok (a : α) : FailsOnly P (.ok a) := nofun

lemma error {e : ε} (h : P e) : FailsOnly P (.error e : Except ε α) := by
  rintro _ ⟨⟩
  exact h

lemma bind {r : Except ε α} {f : α → Except ε β} (hr : FailsOnly P r)
    (hf : ∀ a, FailsOnly P (f a)) : FailsOnly P (r >>= f) := by
  cases r with
  | error e => exact error (hr e rfl)
  | ok a => exact hf a

lemma mapM {f : α → Except ε β} {as : List α} (hf : ∀ a ∈ as, FailsOnly P (f a)) :
    FailsOnly P (as.mapM f) := by
  induction as with
  | nil => exact ok _
  | cons a as ih =>
    rw [List.forall_mem_cons] at hf
    rw [List.mapM_cons]
    exact hf.1.bind fun b => (ih hf.2).bind fun bs => ok _

lemma mono {Q : ε → Prop} (h : ∀ e, P e → Q e) {r : Except ε α} (hr : FailsOnly P r) :
    FailsOnly Q r := fun e he => h e (hr e he)

end FailsOnly

/-- Is an error one with a name of its own that wraps no other? -/
def SpecError.isPrimary (e : SpecError) : Bool := e.isNamed && e.isRoot

/-- Is an error one that a call or its arguments can give rise to, whatever names there are and
however many levels are left? -/
def SpecError.isLocal (e : SpecError) : Bool :=
  e.isPrimary && e.code ≠ .unknownValidator && e.code ≠ .recursionDepthExceeded

/-- An error that says of a text what is wrong with it, and wraps no other. -/
def SpecError.Refuses (text : String) (e : SpecError) : Prop :=
  ∃ what, e = .malformed text what none

lemma SpecError.Refuses.isLocal {text : String} {e : SpecError} (h : e.Refuses text) :
    e.isLocal := by
  obtain ⟨what, rfl⟩ := h
  rfl

/-- Is an error of a construction a fault or an error with a name of its own? -/
def BuildError.IsNamed : BuildError → Prop
  | .spec e => e.isNamed
  | .fault _ => True

/-- Is an error of a construction a fault or a primary error? -/
def BuildError.IsPrimary : BuildError → Prop
  | .spec e => e.isPrimary
  | .fault _ => True

/-- Is an error of a construction a fault or a local error? -/
def BuildError.IsLocal : BuildError → Prop
  | .spec e => e.isLocal
  | .fault _ => True

lemma BuildError.IsLocal.isPrimary {e : BuildError} (h : e.IsLocal) : e.IsPrimary := by
  cases e with
  | spec e =>
    have hlocal : e.isLocal := h
    rw [SpecError.isLocal, Bool.and_eq_true, Bool.and_eq_true] at hlocal
    exact hlocal.1.1
  | fault f => trivial

namespace FailsOnly

variable {α β : Type}

lemma ofSpec {r : Except SpecError α} (h : FailsOnly (·.isLocal) r) :
    FailsOnly BuildError.IsLocal (Build.ofSpec r) := by
  cases r with
  | error e => exact error (h e rfl)
  | ok a => exact ok a

lemma refuse {e : SpecError} (h : e.isLocal) :
    FailsOnly BuildError.IsLocal (Build.refuse e : Build α) := error h

lemma isNamed {r : Build α} (h : FailsOnly BuildError.IsPrimary r) :
    FailsOnly BuildError.IsNamed r := by
  rintro (e | f) hr
  · have hprimary : e.isPrimary := h _ hr
    exact ((Bool.and_eq_true _ _).mp hprimary).1
  · trivial

end FailsOnly

/-! ### Readers -/

lemma Form.isLocal_error (form : Form) (name : String) : (form.arity.error name).isLocal := by
  have hnumbers : ∀ n ∈ [0, 1, 2], Integer.isShort n := by decide
  simp only [List.forall_mem_cons] at hnumbers
  cases form <;>
    simp [SpecError.isLocal, SpecError.isPrimary, SpecError.isNamed, SpecError.isRoot,
      SpecError.code, Arity.error, arity, hnumbers]

lemma Call.parse_local (shapeOf : String → ArgShape) (text : String) :
    FailsOnly (·.isLocal) (parse shapeOf text) := by
  unfold parse
  dsimp only
  split
  · split_ifs
    · exact .error rfl
    · exact .error rfl
    · exact .ok _
  · split_ifs
    · exact .error rfl
    · exact .error rfl
    · exact .ok _

namespace PatternArgument

lemma pair_refuses (text : String) (segment : List Char) :
    FailsOnly (·.Refuses text) (pair text segment) := by
  unfold pair
  split
  · exact .error ⟨_, rfl⟩
  · dsimp only
    split_ifs
    · exact .error ⟨_, rfl⟩
    · exact .ok _

lemma required_refuses (text : String) (pairs : Record String) (key : String) :
    FailsOnly (·.Refuses text) (required text pairs key) := by
  unfold required
  split
  · exact .error ⟨_, rfl⟩
  · split_ifs
    · exact .error ⟨_, rfl⟩
    · exact .ok _

/-- Every error of the notation between braces is about the text as a whole. -/
lemma parseBraced_refuses (text : String) : FailsOnly (·.Refuses text) (parseBraced text) := by
  unfold parseBraced
  dsimp only
  split_ifs
  · exact .error ⟨_, rfl⟩
  · refine .bind (.mapM fun segment _ => pair_refuses text segment) fun pairs => ?_
    refine (required_refuses _ _ _).bind fun pattern => ?_
    exact (required_refuses _ _ _).bind fun description => .ok _

lemma parse_local (arg : String) : FailsOnly (·.isLocal) (parse arg) := by
  unfold parse
  dsimp only
  split_ifs
  · exact (parseBraced_refuses arg).mono fun _ he => he.isLocal
  · split <;> exact .ok _
  · exact .ok _

end PatternArgument

namespace Pattern

lemma readFor_local (shown pattern : String) :
    FailsOnly BuildError.IsLocal (readFor shown pattern) := by
  unfold readFor
  split
  · exact .ok _
  · exact .error rfl
  · exact .error trivial

lemma make_local (source description : String) :
    FailsOnly BuildError.IsLocal (make source description) := by
  have hcompile : FailsOnly BuildError.IsLocal (compile source) := by
    refine (readFor_local _ _).bind fun p => ?_
    split
    · exact .ok _
    · exact readFor_local _ _
  unfold make
  split
  · exact .ok _
  · exact .error (hcompile _ ‹_›)

end Pattern

/-! ### Makers -/

namespace Registry

lemma integer_local (name arg : String) : FailsOnly BuildError.IsLocal (integer name arg) := by
  unfold integer
  split
  · exact .error trivial
  · exact .ok _
  · exact .refuse rfl

lemma length_local (name arg : String) : FailsOnly BuildError.IsLocal (length name arg) := by
  refine (integer_local _ _).bind fun n => ?_
  split
  · exact .refuse rfl
  · exact .ok _

lemma number_local (name arg : String) : FailsOnly BuildError.IsLocal (number name arg) := by
  unfold number
  split
  · exact .ok _
  · exact .refuse rfl

lemma pattern_local (arg : String) : FailsOnly BuildError.IsLocal (pattern arg) := by
  refine (PatternArgument.parse_local arg).ofSpec.bind fun p => ?_
  exact (Pattern.make_local _ _).bind fun _ => .ok _

/-- A form all of whose errors are local. -/
def FormLocal : Form → Prop
  | .one make => ∀ name a, FailsOnly BuildError.IsLocal (make name a)
  | .two make => ∀ name a b, FailsOnly BuildError.IsLocal (make name a b)
  | .whole make => ∀ a, FailsOnly BuildError.IsLocal (make a)
  | _ => True

lemma lengthForm_local (unit : LengthUnit) (bounds : Int → Option Int × Option Int) :
    FormLocal (lengthForm unit bounds) := fun _ _ => (length_local _ _).bind fun _ => .ok _

lemma form_local {e : Entry} (he : e ∈ entries) : FormLocal e.form := by
  have hforms : ∀ e ∈ entries, FormLocal e.form := by
    simp only [entries, List.forall_mem_cons]
    refine ⟨trivial, trivial, lengthForm_local _ _, lengthForm_local _ _, lengthForm_local _ _,
      lengthForm_local _ _, lengthForm_local _ _, lengthForm_local _ _, ?range, ?intrange, ?min,
      ?max, pattern_local, pattern_local, ?mustnotmatch, trivial, trivial, trivial, trivial,
      trivial, trivial, trivial, trivial, trivial, trivial, trivial, trivial, trivial, trivial,
      trivial, by simp⟩
    case range =>
      intro name a b
      exact (number_local _ _).bind fun _ => (number_local _ _).bind fun _ => .ok _
    case intrange =>
      intro name a b
      exact (integer_local _ _).bind fun _ => (integer_local _ _).bind fun _ => .ok _
    case min => exact fun _ _ => (number_local _ _).bind fun _ => .ok _
    case max => exact fun _ _ => (number_local _ _).bind fun _ => .ok _
    case mustnotmatch => exact fun _ => (pattern_local _).bind fun _ => .ok _
  exact hforms e he

/-! ### Specs -/

section

variable {P : BuildError → Prop} (hlocal : ∀ e : BuildError, e.IsLocal → P e)
  {nested : String → Build Validator} {args : List String}

include hlocal

lemma make_fails {e : Entry} (he : e ∈ entries) (hnested : ∀ a ∈ args, FailsOnly P (nested a)) :
    FailsOnly P (e.make nested args) := by
  have hform := form_local he
  unfold Entry.make
  split
  case h_2 make a hmake =>
    rw [hmake] at hform
    exact (hform _ _).mono hlocal
  case h_3 make a b hmake =>
    rw [hmake] at hform
    exact (hform _ _ _).mono hlocal
  case h_6 make a hmake =>
    rw [hmake] at hform
    exact (hform _).mono hlocal
  case h_7 => exact (FailsOnly.mapM hnested).bind fun _ => .ok _
  case h_8 => exact (hnested _ (List.mem_singleton_self _)).bind fun _ => .ok _
  case h_9 => exact (FailsOnly.refuse (Form.isLocal_error _ _)).mono hlocal
  all_goals exact .ok _

variable (hunknown : ∀ name, lookup? name = none → P (.spec (.unknown name)))

include hunknown

lemma resolveWith_fails (name : String) (hnested : ∀ a ∈ args, FailsOnly P (nested a)) :
    FailsOnly P (resolveWith nested name args) := by
  unfold resolveWith
  split
  · exact .error (hunknown name ‹_›)
  · exact make_fails hlocal (mem_entries_of_lookup? ‹_›) hnested

/-- Besides local errors, a spec is refused for names that find nothing and for its depth. -/
theorem buildAt_fails (hdeep : P (.spec (.tooDeep maxDepth))) (n : Nat) (text : String) :
    FailsOnly P (buildAt n text) := by
  induction n generalizing text with
  | zero => exact .error hdeep
  | succ n ih =>
    refine FailsOnly.bind ((Call.parse_local _ _).ofSpec.mono hlocal) fun call => ?_
    exact resolveWith_fails hlocal hunknown _ fun a _ => ih a

end

lemma resolveWith_primary {nested : String → Build Validator}
    (hnested : ∀ s, FailsOnly BuildError.IsPrimary (nested s)) (name : String)
    (args : List String) : FailsOnly BuildError.IsPrimary (resolveWith nested name args) :=
  resolveWith_fails (fun _ he => he.isPrimary) (fun _ _ => rfl) name fun a _ => hnested a

/-- A spec is refused with an error that has a name and wraps no other. -/
theorem buildAt_primary (n : Nat) (text : String) :
    FailsOnly BuildError.IsPrimary (buildAt n text) := by
  have hdeep : (SpecError.tooDeep maxDepth).isPrimary := by decide
  exact buildAt_fails (fun _ he => he.isPrimary) (fun _ _ => rfl) hdeep n text

end Registry

end ValueSpec
