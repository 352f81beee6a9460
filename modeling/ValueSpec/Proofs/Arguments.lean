import ValueSpec.Proofs.Faults
import ValueSpec.Proofs.Spellings

/-!
# Numbers and integers among arguments

The number of arguments is looked at before any argument is. Where it is accepted, every argument
that is taken by its place is there. An argument that has to be an integer is then looked at by
itself: it is no plain numeral, or it denotes an integer that is allowed or not. So the validators
of lengths and of ranges of integers get as their bounds the integers that are denoted.
-/

namespace ValueSpec

open Build Registry

/-- A spec is refused with an error of the code and the parameters. -/
def Refused (r : Build Validator) (code : Code) (params : Params) : Prop :=
  ∃ e, r = .error (.spec e) ∧ e.code = code ∧ e.params = params

namespace Refused

variable {code : Code} {params : Params}

lemma refuse_iff {e : SpecError} :
    Refused (refuse e) code params ↔ e.code = code ∧ e.params = params := by
  constructor
  · rintro ⟨e', he, h⟩
    obtain rfl := BuildError.spec.inj (Except.error.inj he)
    exact h
  · intro h
    exact ⟨e, rfl, h⟩

lemma not_ok {v : Validator} : ¬ Refused (.ok v) code params := by
  rintro ⟨e, he, -⟩
  cases he

end Refused

/-! ### Unknown names -/

/-- Does an error that speaks of an unknown name speak of one that finds nothing? -/
def BuildError.NamesUnknown : BuildError → Prop
  | .spec e => e.code = .unknownValidator →
    ∃ name, e.params = [("name", .text name)] ∧ lookup? name = none
  | .fault _ => True

lemma BuildError.IsLocal.namesUnknown {e : BuildError} (h : e.IsLocal) : e.NamesUnknown := by
  cases e with
  | spec e =>
    have hlocal : e.isLocal := h
    intro hcode
    simp [SpecError.isLocal, hcode] at hlocal
  | fault f => trivial

namespace Registry

variable {name : String} {args : List String} {depth : Int}

lemma resolve_namesUnknown : FailsOnly BuildError.NamesUnknown (resolve name args depth) := by
  have hlocal (e : BuildError) (h : e.IsLocal) : e.NamesUnknown := h.namesUnknown
  have hunknown (name : String) (h : lookup? name = none) :
      BuildError.NamesUnknown (.spec (.unknown name)) := fun _ => ⟨name, rfl, h⟩
  have hdeep : BuildError.NamesUnknown (.spec (.tooDeep maxDepth)) := nofun
  have hnested := buildAt_fails hlocal hunknown hdeep (levels (depth + 1))
  exact resolveWith_fails hlocal hunknown name fun a _ => hnested a

/-- A validator is refused since nothing has its name exactly if that is so. Specs among the
arguments can be refused for their own names only. -/
lemma unknown_iff :
    Refused (resolve name args depth) .unknownValidator [("name", .text name)] ↔
      lookup? name = none := by
  constructor
  · rintro ⟨e, he, hcode, hparams⟩
    have hnames : BuildError.NamesUnknown (.spec e) := resolve_namesUnknown _ he
    obtain ⟨name', hparams', hlookup⟩ := hnames hcode
    have hname : name' = name := by simpa [hparams] using hparams'.symm
    exact hname ▸ hlookup
  · intro h
    rw [resolve, resolveWith, h]
    exact Refused.refuse_iff.mpr ⟨rfl, rfl⟩

end Registry

/-! ### Numbers of arguments -/

namespace Arity

lemma accepts_exactly_iff {n count : Int} : (⟨n, some n⟩ : Arity).accepts count ↔ count = n := by
  simp [accepts]
  omega

lemma accepts_atLeast_iff {n count : Int} : (⟨n, none⟩ : Arity).accepts count ↔ n ≤ count := by
  simp [accepts]

end Arity

/-- What a form makes of arguments that it takes by their places. Nothing, if it takes one that is
not there. -/
def Form.fill (nested : String → Build Validator) (name : String) (args : List String) :
    Form → Option (Build Validator)
  | .fixed v => return .ok v
  | .one make => do return make name (← args[0]?)
  | .two make => do return make name (← args[0]?) (← args[1]?)
  | .some make => return .ok (make args)
  | .many make => return .ok (make args)
  | .whole make => do return make (← args[0]?)
  | .specs make => return args.mapM nested >>= fun vs => pure (make vs)
  | .spec make => do return nested (← args[0]?) >>= fun v => pure (make v)

namespace Entry

variable {e : Entry} {args : List String} (nested : String → Build Validator)

/-- No argument is missing where their number is accepted. -/
lemma fill_of_accepts (h : e.form.arity.accepts args.length) :
    e.form.fill nested e.name args = some (e.make nested args) := by
  obtain ⟨name, aliases, form⟩ := e
  cases form with
  | fixed v =>
    have hlength := Arity.accepts_exactly_iff.mp h
    obtain rfl : args = [] := List.length_eq_zero_iff.mp (by omega)
    rfl
  | one make | whole make | spec make =>
    have hlength := Arity.accepts_exactly_iff.mp h
    obtain ⟨a, rfl⟩ := List.length_eq_one_iff.mp (by omega : args.length = 1)
    rfl
  | two make =>
    have hlength := Arity.accepts_exactly_iff.mp h
    obtain ⟨a, b, rfl⟩ := List.length_eq_two.mp (by omega : args.length = 2)
    rfl
  | some make | specs make =>
    have hlength := Arity.accepts_atLeast_iff.mp h
    obtain ⟨a, rest, rfl⟩ := List.exists_cons_of_length_pos (by omega : 0 < args.length)
    rfl
  | many make => rfl

/-- Another number of arguments is refused, whatever the arguments are. -/
lemma make_of_not_accepts (h : ¬ e.form.arity.accepts args.length) :
    e.make nested args = refuse (e.form.arity.error e.name) := by
  unfold make
  split
  case h_4 hform | h_7 hform =>
    rw [hform] at h
    exact absurd (Arity.accepts_atLeast_iff.mpr (by rw [List.length_cons]; omega)) h
  case h_5 hform =>
    rw [hform] at h
    exact absurd (Arity.accepts_atLeast_iff.mpr (by omega)) h
  case h_9 => rfl
  all_goals
    rename_i hform
    rw [hform] at h
    exact absurd rfl h

end Entry

/-- Where any number of arguments would do but none, the error says so. Otherwise it says how many
are needed. -/
lemma Form.arity_error_refused (form : Form) (name : String) :
    if form.arity.most = none ∧ 1 ≤ form.arity.least then
      Refused (refuse (form.arity.error name)) .requiresAtLeastOneArgument
        [("validator", .text name)]
    else
      Refused (refuse (form.arity.error name)) .requiresArgument
        [("validator", .text name), ("expected", .int form.arity.least)] := by
  simp only [Refused.refuse_iff]
  cases form <;> simp [arity, Arity.error, SpecError.code, SpecError.params]

/-! ### Integers -/

namespace Registry

/-- The validators whose bounds are integers. -/
def bounded? (name : String) (ns : List Int) : Option Leaf :=
  match name, ns with
  | "minlength", [n] => some (.length .characters (some n) none)
  | "maxlength", [n] => some (.length .characters none (some n))
  | "length", [n] => some (.length .characters (some n) (some n))
  | "minbytelength", [n] => some (.length .bytes (some n) none)
  | "maxbytelength", [n] => some (.length .bytes none (some n))
  | "bytelength", [n] => some (.length .bytes (some n) (some n))
  | "intrange", [lo, hi] => some (.intRange lo hi)
  | _, _ => none

/-- One of the arguments is a length, and it is negative. -/
def NegativeLength (name : String) (args : List String) : Prop :=
  name ∈ lengthNames ∧ ∃ a ∈ args, ∃ n < 0, Integer.Denotes a n

/-- A validator is made of arguments that have to be integers. Either one of them is no plain
numeral, or one of them is a negative length, or they are the bounds. -/
structure TakesIntegers (name : String) (args : List String) (r : Build Validator) : Prop where
  notAnInteger : Refused r .argumentMustBeInteger [("validator", .text name)] ↔
    ∃ a ∈ args, ¬ Integer.IsPlain a
  negative : Refused r .argumentCannotBeNegative [("validator", .text name)] ↔
    NegativeLength name args
  bounds : ¬ (∃ a ∈ args, ¬ Integer.IsPlain a) → ¬ NegativeLength name args →
    ∃ ns l, List.Forall₂ Integer.Denotes args ns ∧ bounded? name ns = some l ∧ r = .ok (.leaf l)

namespace TakesIntegers

variable {name : String} {args : List String}

lemma of_notAnInteger (h : ∃ a ∈ args, ¬ Integer.IsPlain a) (hnot : ¬ NegativeLength name args) :
    TakesIntegers name args (refuse (.notAnInteger name)) where
  notAnInteger := iff_of_true (Refused.refuse_iff.mpr ⟨rfl, rfl⟩) h
  negative := iff_of_false (by simp [Refused.refuse_iff, SpecError.code]) hnot
  bounds hplain _ := absurd h hplain

lemma of_negative (hplain : ¬ ∃ a ∈ args, ¬ Integer.IsPlain a) (h : NegativeLength name args) :
    TakesIntegers name args (refuse (.negative name)) where
  notAnInteger := iff_of_false (by simp [Refused.refuse_iff, SpecError.code]) hplain
  negative := iff_of_true (Refused.refuse_iff.mpr ⟨rfl, rfl⟩) h
  bounds _ hnot := absurd h hnot

lemma of_bounds {ns : List Int} {l : Leaf} (hargs : List.Forall₂ Integer.Denotes args ns)
    (hnot : ¬ NegativeLength name args) (hl : bounded? name ns = some l) :
    TakesIntegers name args (.ok (.leaf l)) where
  notAnInteger := by
    refine iff_of_false Refused.not_ok ?_
    rintro ⟨a, ha, hplain⟩
    obtain ⟨n, hn⟩ := exists_forall₂_iff.mp ⟨ns, hargs⟩ a ha
    exact hplain hn.isPlain
  negative := iff_of_false Refused.not_ok hnot
  bounds _ _ := ⟨ns, l, hargs, hl, rfl⟩

end TakesIntegers

lemma lookup?_intrange : lookup? "intrange" = some
    { name := "intrange"
      form := .two fun name a b =>
        return .leaf (.intRange (← integer name a) (← integer name b)) } :=
  lookup?_of_isLower (by decide)

section

variable {name arg : String} {args : List String} (nested : String → Build Validator)
  (hshort : ∀ a ∈ args, ∀ count, ¬ Overlong a count)

lemma integer_of_denotes {n : Int} (h : Integer.Denotes arg n) : integer name arg = .ok n :=
  integer_ok_iff.mpr (Integer.read_eq_some_iff.mpr h)

lemma integer_of_not_isPlain (h : ¬ Integer.IsPlain arg) :
    integer name arg = refuse (.notAnInteger name) := by
  rw [integer, Integer.read_eq_none_iff.mpr h]

include hshort

/-- A form of lengths takes one integer. -/
lemma lengthForm_takesIntegers {unit : LengthUnit} {bounds : Int → Option Int × Option Int}
    {aliases : List String} (hname : name ∈ lengthNames)
    (hbounds : ∀ n, bounded? name [n] = some (.length unit (bounds n).1 (bounds n).2))
    (haccepts : (lengthForm unit bounds).arity.accepts args.length) :
    TakesIntegers name args (Entry.make ⟨name, aliases, lengthForm unit bounds⟩ nested args) := by
  have hlength := Arity.accepts_exactly_iff.mp haccepts
  obtain ⟨a, rfl⟩ := List.length_eq_one_iff.mp (by omega : args.length = 1)
  have hmake : Entry.make ⟨name, aliases, lengthForm unit bounds⟩ nested [a] =
      length name a >>= fun n => pure (.leaf (.length unit (bounds n).1 (bounds n).2)) := rfl
  rw [hmake, length]
  by_cases hplain : Integer.IsPlain a
  · obtain ⟨n, hn⟩ := (Integer.exists_denotes_iff (hshort a (by simp))).mpr hplain
    rw [integer_of_denotes hn, ok_bind]
    split_ifs with hneg
    · exact .of_negative (by simpa using hplain) ⟨hname, a, by simp, n, hneg, hn⟩
    · refine .of_bounds (.cons hn .nil) ?_ (hbounds n)
      rintro ⟨-, b, hb, m, hm, hdenotes⟩
      obtain rfl := List.mem_singleton.mp hb
      exact hneg (hn.unique hdenotes ▸ hm)
  · rw [integer_of_not_isPlain hplain]
    refine .of_notAnInteger ⟨a, by simp, hplain⟩ ?_
    rintro ⟨-, b, hb, n, -, hn⟩
    obtain rfl := List.mem_singleton.mp hb
    exact hplain hn.isPlain

/-- The form of ranges of integers takes two integers, which may be negative. -/
lemma intrange_takesIntegers {aliases : List String} {form : Form}
    (hform : form = .two fun name a b =>
      return .leaf (.intRange (← integer name a) (← integer name b)))
    (haccepts : form.arity.accepts args.length) :
    TakesIntegers "intrange" args (Entry.make ⟨"intrange", aliases, form⟩ nested args) := by
  subst hform
  have hlength := Arity.accepts_exactly_iff.mp haccepts
  obtain ⟨a, b, rfl⟩ := List.length_eq_two.mp (by omega : args.length = 2)
  have hnone : ¬ NegativeLength "intrange" [a, b] := fun h => absurd h.1 (by decide)
  have hread (c : String) (hc : c ∈ [a, b]) (hplain : Integer.IsPlain c) :
      ∃ n, Integer.Denotes c n := (Integer.exists_denotes_iff (hshort c hc)).mpr hplain
  show TakesIntegers "intrange" [a, b] (integer "intrange" a >>= fun lo =>
    integer "intrange" b >>= fun hi => pure (.leaf (.intRange lo hi)))
  by_cases ha : Integer.IsPlain a
  · obtain ⟨lo, hlo⟩ := hread a (by simp) ha
    rw [integer_of_denotes hlo, ok_bind]
    by_cases hb : Integer.IsPlain b
    · obtain ⟨hi, hhi⟩ := hread b (by simp) hb
      rw [integer_of_denotes hhi, ok_bind]
      exact .of_bounds (.cons hlo (.cons hhi .nil)) hnone rfl
    · rw [integer_of_not_isPlain hb]
      exact .of_notAnInteger ⟨b, by simp, hb⟩ hnone
  · rw [integer_of_not_isPlain ha]
    exact .of_notAnInteger ⟨a, by simp, ha⟩ hnone

/-- The validators of lengths and of ranges of integers take integers. -/
lemma make_takesIntegers {e : Entry} (he : e ∈ entries) (hname : e.name ∈ "intrange" :: lengthNames)
    (haccepts : e.form.arity.accepts args.length) :
    TakesIntegers e.name args (e.make nested args) := by
  have hforms : ∀ e ∈ entries, e.name ∈ "intrange" :: lengthNames →
      e.form.arity.accepts args.length → TakesIntegers e.name args (e.make nested args) := by
    simp only [entries, List.forall_mem_cons]
    and_intros
    -- an entry is none of those that are named, or it has one of two forms
    all_goals first
      | exact fun hname _ => absurd hname (by decide)
      | exact fun _ => lengthForm_takesIntegers nested hshort (by decide) fun _ => rfl
      | exact fun _ => intrange_takesIntegers nested hshort rfl
      | exact List.forall_mem_nil _
  exact hforms e he hname haccepts

end

/-- Making a validator by its name first looks the name up, then counts the arguments and only then
looks at them. A name that finds nothing is refused, and so is a wrong number of arguments, with
the name of the entry. Otherwise no argument is missing. Where integers are wanted, all arguments
that are not too long are read as such: a refusal says that one of them is no plain numeral or is
a negative length, and if there is none, the integers are the bounds. -/
theorem resolve_arguments (name : String) (args : List String) (depth : Int) :
    (Refused (resolve name args depth) .unknownValidator [("name", .text name)] ↔
      lookup? name = none) ∧
    ∀ e, lookup? name = some e →
      (¬ e.form.arity.accepts args.length →
        if e.form.arity.most = none ∧ 1 ≤ e.form.arity.least then
          Refused (resolve name args depth) .requiresAtLeastOneArgument
            [("validator", .text e.name)]
        else
          Refused (resolve name args depth) .requiresArgument
            [("validator", .text e.name), ("expected", .int e.form.arity.least)]) ∧
      (e.form.arity.accepts args.length →
        e.form.fill (build · (depth + 1)) e.name args = some (resolve name args depth) ∧
        (e.name ∈ "intrange" :: lengthNames → (∀ a ∈ args, ∀ count, ¬ Overlong a count) →
          TakesIntegers e.name args (resolve name args depth))) := by
  refine ⟨unknown_iff, fun e he => ?_⟩
  have hresolve : resolve name args depth = e.make (buildAt (levels (depth + 1))) args := by
    rw [resolve, resolveWith, he]
  rw [hresolve]
  refine ⟨fun hnot => ?_, fun haccepts => ⟨e.fill_of_accepts _ haccepts, fun hname hshort => ?_⟩⟩
  · rw [e.make_of_not_accepts _ hnot]
    exact e.form.arity_error_refused e.name
  · exact make_takesIntegers _ hshort (mem_entries_of_lookup? he) hname haccepts

/-- No specs where one is needed, and bounds with signs and zeros in front. -/
theorem resolve_arguments_intrange :
    Refused (resolve "oneof" [] 3) .requiresAtLeastOneArgument [("validator", .text "oneof")] ∧
    (∀ a ∈ ["-0012", "+7"], ∀ count, ¬ Overlong a count) ∧
    resolve " IntRange" ["-0012", "+7"] 10 = .ok (.leaf (.intRange (-12) 7)) := by
  have honeof : lookup? "oneof" = some { name := "oneof", form := .specs .any } :=
    lookup?_of_isLower (by decide)
  have hspelt := (lookup?_eq_some_iff (mem_entries_of_lookup? lookup?_intrange)
    (n := " IntRange")).mpr ⟨"intrange", by simp [Entry.names], by decide +kernel⟩
  have hlo : Integer.Denotes "-0012" (-12) := Integer.read_eq_some_iff.mp rfl
  have hhi : Integer.Denotes "+7" 7 := Integer.read_eq_some_iff.mp rfl
  have hshort : ∀ a ∈ ["-0012", "+7"], ∀ count, ¬ Overlong a count := by
    simp only [List.forall_mem_cons]
    exact ⟨hlo.short, hhi.short, by simp⟩
  obtain ⟨-, hcount⟩ := resolve_arguments "oneof" [] 3
  have hnone := (hcount _ honeof).1 (by decide)
  obtain ⟨-, harguments⟩ := resolve_arguments " IntRange" ["-0012", "+7"] 10
  obtain ⟨-, htakes⟩ := (harguments _ hspelt).2 (by decide)
  obtain ⟨ns, l, hns, hl, hresolve⟩ := (htakes (by decide) hshort).bounds
    (by simp [hlo.isPlain, hhi.isPlain]) (fun h => absurd h.1 (by decide))
  obtain ⟨lo, _, hlo', hrest, rfl⟩ := List.forall₂_cons_left_iff.mp hns
  obtain ⟨hi, _, hhi', hnil, rfl⟩ := List.forall₂_cons_left_iff.mp hrest
  obtain rfl := List.forall₂_nil_left_iff.mp hnil
  obtain rfl := Option.some.inj hl
  rw [hlo.unique hlo', hhi.unique hhi']
  exact ⟨hnone, hshort, hresolve⟩

end Registry

end ValueSpec
