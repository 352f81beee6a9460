import ValueSpec.Proofs.Integers
import ValueSpec.Proofs.Pattern.Limits
import ValueSpec.Proofs.Refusals
import ValueSpec.Proofs.Subtexts
import ValueSpec.Proofs.Suites

/-!
# Specs that go beyond a limit

A spec that cannot be built is refused with an error of the spec, with one exception: what cannot
be read for its size is a fault. This happens to the integers of lengths and of `intrange`, which
have a greatest number of digits, and to patterns. Such a fault gets through all wrappers and
through everything that turns errors of specs into reports.
-/

namespace ValueSpec

open Build Registry

/-! ### Calls that go beyond a limit -/

namespace Registry

/-- The names of the validators of lengths. -/
def lengthNames : List String :=
  ["minlength", "maxlength", "length", "minbytelength", "maxbytelength", "bytelength"]

/-- The names of the validators that take a pattern. -/
def patternNames : List String := ["regex", "mustmatch", "mustnotmatch"]

/-- The arguments of a validator go beyond a limit, and the fault is the given one. `builds` tells
the specs of which validators are made one level deeper, and `deeper` those that go beyond a limit
there. -/
def CallExceeds (builds : String → Prop) (deeper : String → Fault → Prop) (name : String)
    (args : List String) (f : Fault) : Prop :=
  if name ∈ lengthNames then
    ∃ arg count, args = [arg] ∧ Overlong arg count ∧ f = .tooManyDigits count
  else if name = "intrange" then
    ∃ a b count, args = [a, b] ∧
      (Overlong a count ∨ (∃ n, Integer.read a = .ok (some n)) ∧ Overlong b count) ∧
      f = .tooManyDigits count
  else if name ∈ patternNames then
    ∃ arg p, args = [arg] ∧ PatternArgument.parse arg = .ok p ∧ Pattern.Exceeds p.pattern f
  else if name ∈ ["all", "oneof"] then
    ∃ before spec after, args = before ++ spec :: after ∧ (∀ s ∈ before, builds s) ∧ deeper spec f
  else if name = "not" then ∃ spec, args = [spec] ∧ deeper spec f
  else False

/-- A spec goes beyond a limit, with a number of levels left. -/
def Exceeds : Nat → String → Fault → Prop
  | 0, _, _ => False
  | n + 1, text, f =>
    ∃ call e, Call.parse shapeFor text = .ok call ∧ lookup? call.name = some e ∧
      CallExceeds (fun s => ∃ v, buildAt n s = .ok v) (Exceeds n) e.name call.args f

/-- The arguments of the validator with a name go beyond a limit at a depth. -/
def NameExceeds (name : String) (args : List String) (depth : Int) (f : Fault) : Prop :=
  ∃ e, lookup? name = some e ∧
    CallExceeds (fun s => ∃ v, build s (depth + 1) = .ok v) (Exceeds (levels (depth + 1))) e.name
      args f

/-- A list of specs goes beyond a limit: the first of them does that becomes no validator, blank
ones apart. -/
def ListExceeds (specs : List String) (f : Fault) : Prop :=
  ∃ before spec after,
    specs.filter (fun s => !Text.isBlankText s) = before ++ spec :: after ∧
    (∀ s ∈ before, ∃ v, build s 0 = .ok v) ∧ Exceeds (levels 0) spec f

end Registry

/-! ### Forms -/

namespace Build

@[simp] lemma pure_ne_fault {α : Type} (a : α) (f : Fault) :
    (pure a : Build α) ≠ .error (.fault f) := nofun

@[simp] lemma refuse_ne_fault {α : Type} (e : SpecError) (f : Fault) :
    (refuse e : Build α) ≠ .error (.fault f) := nofun

lemma bind_fault_iff {α β : Type} {r : Build α} {f : α → Build β} {e : Fault} :
    r >>= f = .error (.fault e) ↔
      r = .error (.fault e) ∨ ∃ a, r = .ok a ∧ f a = .error (.fault e) := by
  cases r <;> simp

lemma bind_fault_iff_left {α β : Type} {r : Build α} {f : α → Build β} {e : Fault}
    (hf : ∀ a, f a ≠ .error (.fault e)) : r >>= f = .error (.fault e) ↔ r = .error (.fault e) := by
  rw [bind_fault_iff]
  constructor
  · rintro (h | ⟨a, -, ha⟩)
    · exact h
    · exact absurd ha (hf a)
  · exact .inl

/-- Building several things fails where the first of them does that cannot be built. -/
lemma mapM_error_iff {α β : Type} {f : α → Build β} {as : List α} {e : BuildError} :
    as.mapM f = .error e ↔
      ∃ before a after, as = before ++ a :: after ∧ (∀ b ∈ before, ∃ c, f b = .ok c) ∧
        f a = .error e := by
  constructor
  · intro h
    induction as with
    | nil => cases h
    | cons a as ih =>
      rw [List.mapM_cons] at h
      -- the list stops at the first element that fails, so that only later ones get to `before`
      cases ha : f a with
      | error e' =>
        rw [ha, error_bind] at h
        obtain rfl := Except.error.inj h
        exact ⟨[], a, as, rfl, by simp, ha⟩
      | ok c =>
        rw [ha, ok_bind] at h
        cases has : as.mapM f with
        | ok cs =>
          rw [has] at h
          cases h
        | error e' =>
          rw [has, error_bind] at h
          obtain rfl := Except.error.inj h
          obtain ⟨before, b, after, rfl, hbefore, hb⟩ := ih has
          exact ⟨a :: before, b, after, rfl, by simpa [ha] using hbefore, hb⟩
  · rintro ⟨before, a, after, rfl, hbefore, ha⟩
    induction before with
    | nil => rw [List.nil_append, List.mapM_cons, ha, error_bind]
    | cons b before ih =>
      obtain ⟨c, hc⟩ := hbefore b (by simp)
      rw [List.cons_append, List.mapM_cons, hc, ok_bind, ih fun d hd => hbefore d (by simp [hd]),
        error_bind]

end Build

/-- A form goes beyond a limit with arguments. -/
def Form.Exceeds (nested : String → Build Validator) (name : String) (args : List String)
    (f : Fault) : Form → Prop
  | .fixed _ | .some _ | .many _ => False
  | .one make => ∃ a, args = [a] ∧ make name a = .error (.fault f)
  | .two make => ∃ a b, args = [a, b] ∧ make name a b = .error (.fault f)
  | .whole make => ∃ a, args = [a] ∧ make a = .error (.fault f)
  | .specs _ => args.mapM nested = .error (.fault f)
  | .spec _ => ∃ a, args = [a] ∧ nested a = .error (.fault f)

/-- An entry makes a fault where its form goes beyond a limit; a wrong number of arguments is an
error of the spec. -/
lemma Entry.make_fault_iff {e : Entry} {nested : String → Build Validator} {args : List String}
    {f : Fault} :
    e.make nested args = .error (.fault f) ↔ e.form.Exceeds nested e.name args f := by
  obtain ⟨name, aliases, form⟩ := e
  cases form with
  | specs make =>
    cases args with
    | nil => simp [Entry.make, Form.Exceeds]
    | cons a rest =>
      rw [Entry.make_specs rfl _ (by simp), bind_fault_iff, Form.Exceeds]
      simp
  | spec make =>
    rcases args with _ | ⟨a, _ | ⟨b, rest⟩⟩
    · simp [Entry.make, Form.Exceeds]
    · rw [Entry.make_spec rfl, bind_fault_iff]
      simp [Form.Exceeds]
    · simp [Entry.make, Form.Exceeds]
  | _ => rcases args with _ | ⟨a, _ | ⟨b, _ | ⟨c, rest⟩⟩⟩ <;> simp [Entry.make, Form.Exceeds]

/-! ### Arguments that go beyond a limit -/

namespace Registry

variable {name arg : String} {args : List String} {f : Fault}

lemma integer_fault_iff :
    integer name arg = .error (.fault f) ↔
      ∃ count, Overlong arg count ∧ f = .tooManyDigits count := by
  rw [← Integer.read_eq_error_iff, integer]
  rcases Integer.read arg with e | _ | n <;> simp

lemma integer_ok_iff {n : Int} : integer name arg = .ok n ↔ Integer.read arg = .ok (some n) := by
  rw [integer]
  rcases Integer.read arg with e | _ | m <;> simp

lemma length_fault_iff :
    length name arg = .error (.fault f) ↔
      ∃ count, Overlong arg count ∧ f = .tooManyDigits count := by
  rw [length, bind_fault_iff_left, integer_fault_iff]
  intro n
  split_ifs <;> simp

lemma number_ne_fault : number name arg ≠ .error (.fault f) := by
  rw [number]
  cases Binary64.read? arg <;> simp

lemma make_pattern_fault_iff {source description : String} :
    Pattern.make source description = .error (.fault f) ↔
      Pattern.compile source = .error (.fault f) := by
  unfold Pattern.make
  split <;> simp [*]

lemma pattern_fault_iff :
    pattern arg = .error (.fault f) ↔
      ∃ p, PatternArgument.parse arg = .ok p ∧ Pattern.Exceeds p.pattern f := by
  simp only [← Pattern.compile_fault_iff]
  rw [pattern]
  cases PatternArgument.parse arg with
  | error e => simp
  | ok p =>
    rw [ofSpec_ok, ok_bind, bind_fault_iff_left fun _ => pure_ne_fault _ _,
      make_pattern_fault_iff]
    simp

/-! ### Entries that go beyond a limit -/

variable (nested : String → Build Validator)

/-- The arguments of a validator go beyond a limit, by what is built of the specs among them. -/
def ExceedsBy (name : String) (args : List String) (f : Fault) : Prop :=
  CallExceeds (fun s => ∃ v, nested s = .ok v) (fun s f => nested s = .error (.fault f)) name args f

lemma exceeds_length (hname : name ∈ lengthNames) (unit : LengthUnit)
    (bounds : Int → Option Int × Option Int) :
    (lengthForm unit bounds).Exceeds nested name args f ↔ ExceedsBy nested name args f := by
  have hmake (arg : String) :
      (length name arg >>= fun n =>
        (pure (.leaf (.length unit (bounds n).1 (bounds n).2)) : Build Validator)) =
        .error (.fault f) ↔ ∃ count, Overlong arg count ∧ f = .tooManyDigits count := by
    rw [bind_fault_iff_left fun _ => pure_ne_fault _ _, length_fault_iff]
  rw [ExceedsBy, CallExceeds, if_pos hname, lengthForm, Form.Exceeds]
  constructor
  · rintro ⟨arg, rfl, h⟩
    obtain ⟨count, harg, rfl⟩ := (hmake arg).mp h
    exact ⟨arg, count, rfl, harg, rfl⟩
  · rintro ⟨arg, count, rfl, harg, rfl⟩
    exact ⟨arg, rfl, (hmake arg).mpr ⟨count, harg, rfl⟩⟩

lemma exceeds_intrange :
    Form.Exceeds nested "intrange" args f
        (.two fun name a b =>
          return .leaf (.intRange (← integer name a) (← integer name b))) ↔
      ExceedsBy nested "intrange" args f := by
  have hmake (a b : String) :
      (integer "intrange" a >>= fun lo => integer "intrange" b >>= fun hi =>
        (pure (.leaf (.intRange lo hi)) : Build Validator)) = .error (.fault f) ↔
      ∃ count, (Overlong a count ∨ (∃ n, Integer.read a = .ok (some n)) ∧ Overlong b count) ∧
        f = .tooManyDigits count := by
    rw [bind_fault_iff]
    simp only [bind_fault_iff_left fun _ => pure_ne_fault _ _, integer_fault_iff, integer_ok_iff]
    constructor
    · rintro (⟨count, h, rfl⟩ | ⟨n, hn, count, h, rfl⟩)
      · exact ⟨count, .inl h, rfl⟩
      · exact ⟨count, .inr ⟨⟨n, hn⟩, h⟩, rfl⟩
    · rintro ⟨count, h | ⟨⟨n, hn⟩, h⟩, rfl⟩
      · exact .inl ⟨count, h, rfl⟩
      · exact .inr ⟨n, hn, count, h, rfl⟩
  rw [ExceedsBy, CallExceeds, if_neg (by decide), if_pos rfl, Form.Exceeds]
  simp only [hmake]
  constructor
  · rintro ⟨a, b, rfl, count, h, rfl⟩
    exact ⟨a, b, count, rfl, h, rfl⟩
  · rintro ⟨a, b, count, rfl, h, rfl⟩
    exact ⟨a, b, rfl, count, h, rfl⟩

lemma exceeds_pattern (hname : name ∈ patternNames) {make : String → Build Validator}
    (hmake : ∀ arg, make arg = .error (.fault f) ↔ pattern arg = .error (.fault f)) :
    Form.Exceeds nested name args f (.whole make) ↔ ExceedsBy nested name args f := by
  have hother : ∀ name ∈ patternNames, name ∉ lengthNames ∧ name ≠ "intrange" := by decide
  obtain ⟨hlength, hrange⟩ := hother name hname
  rw [ExceedsBy, CallExceeds, if_neg hlength, if_neg hrange, if_pos hname, Form.Exceeds]
  simp only [hmake, pattern_fault_iff]
  constructor
  · rintro ⟨arg, rfl, p, h⟩
    exact ⟨arg, p, rfl, h⟩
  · rintro ⟨arg, p, rfl, h⟩
    exact ⟨arg, rfl, p, h⟩

lemma exceeds_specs (hname : name ∈ ["all", "oneof"]) (make : List Validator → Validator) :
    Form.Exceeds nested name args f (.specs make) ↔ ExceedsBy nested name args f := by
  have hother : ∀ name ∈ ["all", "oneof"],
      name ∉ lengthNames ∧ name ≠ "intrange" ∧ name ∉ patternNames := by decide
  obtain ⟨hlength, hrange, hpattern⟩ := hother name hname
  rw [ExceedsBy, CallExceeds, if_neg hlength, if_neg hrange, if_neg hpattern, if_pos hname,
    Form.Exceeds, mapM_error_iff]

lemma exceeds_not :
    Form.Exceeds nested "not" args f (.spec .not) ↔ ExceedsBy nested "not" args f := by
  rw [ExceedsBy, CallExceeds, if_neg (by decide), if_neg (by decide), if_neg (by decide),
    if_neg (by decide), if_pos rfl, Form.Exceeds]

/-- The names of the validators that can go beyond a limit. -/
def limitedNames : List String := lengthNames ++ ["intrange"] ++ patternNames ++ wrappers

lemma exceeds_other (hname : name ∉ limitedNames) {form : Form}
    (hform : ¬ form.Exceeds nested name args f) :
    form.Exceeds nested name args f ↔ ExceedsBy nested name args f := by
  simp only [limitedNames, List.mem_append, not_or] at hname
  obtain ⟨⟨⟨hlength, hrange⟩, hpattern⟩, hwrapper⟩ := hname
  have hnot : name ≠ "not" := by
    rintro rfl
    exact hwrapper (by decide)
  have hsubset : ∀ n ∈ ["all", "oneof"], n ∈ wrappers := by decide
  have hspecs : name ∉ ["all", "oneof"] := fun h => hwrapper (hsubset name h)
  rw [ExceedsBy, CallExceeds, if_neg hlength, if_neg (by simpa using hrange), if_neg hpattern,
    if_neg hspecs, if_neg hnot]
  exact iff_of_false hform id

/-- What an entry makes of arguments is a fault where they go beyond a limit. -/
theorem make_fault_iff {e : Entry} (he : e ∈ entries) :
    e.make nested args = .error (.fault f) ↔ ExceedsBy nested e.name args f := by
  have hforms : ∀ e ∈ entries,
      e.form.Exceeds nested e.name args f ↔ ExceedsBy nested e.name args f := by
    simp only [entries, List.forall_mem_cons]
    refine ⟨exceeds_other _ (by decide) id, exceeds_other _ (by decide) id,
      exceeds_length _ (by decide) _ _, exceeds_length _ (by decide) _ _,
      exceeds_length _ (by decide) _ _, exceeds_length _ (by decide) _ _,
      exceeds_length _ (by decide) _ _, exceeds_length _ (by decide) _ _,
      exceeds_other _ (by decide) ?range, exceeds_intrange _, exceeds_other _ (by decide) ?min,
      exceeds_other _ (by decide) ?max, exceeds_pattern _ (by decide) fun _ => .rfl,
      exceeds_pattern _ (by decide) fun _ => .rfl, exceeds_pattern _ (by decide) ?mustnotmatch,
      exceeds_other _ (by decide) id, exceeds_other _ (by decide) id,
      exceeds_other _ (by decide) id, exceeds_other _ (by decide) id,
      exceeds_other _ (by decide) id, exceeds_other _ (by decide) id,
      exceeds_other _ (by decide) id, exceeds_other _ (by decide) id,
      exceeds_other _ (by decide) id, exceeds_other _ (by decide) id,
      exceeds_other _ (by decide) id, exceeds_other _ (by decide) id,
      exceeds_specs _ (by decide) _, exceeds_specs _ (by decide) _, exceeds_not _, by simp⟩
    case range =>
      rintro ⟨a, b, -, h⟩
      rcases bind_fault_iff.mp h with hlo | ⟨lo, -, hhi⟩
      · exact number_ne_fault hlo
      · exact number_ne_fault ((bind_fault_iff_left fun _ => pure_ne_fault _ _).mp hhi)
    case min =>
      rintro ⟨a, -, h⟩
      exact number_ne_fault ((bind_fault_iff_left fun _ => pure_ne_fault _ _).mp h)
    case max =>
      rintro ⟨a, -, h⟩
      exact number_ne_fault ((bind_fault_iff_left fun _ => pure_ne_fault _ _).mp h)
    case mustnotmatch =>
      intro arg
      exact bind_fault_iff_left fun _ => pure_ne_fault _ _
  rw [Entry.make_fault_iff]
  exact hforms e he

/-! ### Specs that go beyond a limit -/

variable {nested}

lemma resolveWith_fault_iff :
    resolveWith nested name args = .error (.fault f) ↔
      ∃ e, lookup? name = some e ∧ ExceedsBy nested e.name args f := by
  rw [resolveWith]
  cases h : lookup? name with
  | none => simp
  | some e =>
    simp only [make_fault_iff nested (mem_entries_of_lookup? h), Option.some.injEq,
      exists_eq_left']

/-- What is built of a spec is a fault where the spec goes beyond a limit. -/
lemma buildAt_fault_iff (n : Nat) (text : String) (f : Fault) :
    buildAt n text = .error (.fault f) ↔ Exceeds n text f := by
  induction n generalizing text f with
  | zero => simp [buildAt, Exceeds]
  | succ n ih =>
    have hdeeper : (fun s f => buildAt n s = .error (.fault f)) = Exceeds n := by
      funext s f
      exact propext (ih s f)
    rw [buildAt, Exceeds]
    cases Call.parse shapeFor text with
    | error e => simp
    | ok call =>
      rw [ofSpec_ok, ok_bind, resolveWith_fault_iff]
      simp only [ExceedsBy, hdeeper, Except.ok.injEq, exists_eq_left', exists_and_left]

lemma resolve_fault_iff {depth : Int} :
    resolve name args depth = .error (.fault f) ↔ NameExceeds name args depth f := by
  have hdeeper : (fun s f => build s (depth + 1) = .error (.fault f)) =
      Exceeds (levels (depth + 1)) := by
    funext s f
    exact propext (buildAt_fault_iff _ s f)
  rw [NameExceeds, ← hdeeper]
  exact resolveWith_fault_iff

end Registry

/-! ### Few parentheses -/

/-- A text with so few parentheses that the stack has room for the groups of its patterns, whatever
stands in them: it takes two calls to read a group, and at most three to compile what was read. -/
def IsShallow (text : String) : Prop := text.toList.count '(' ≤ 250

instance (text : String) : Decidable (IsShallow text) :=
  inferInstanceAs (Decidable (_ ≤ _))

lemma IsShallow.of_sublist {part text : String} (h : part.toList.Sublist text.toList)
    (htext : IsShallow text) : IsShallow part := (h.count_le _).trans htext

lemma IsShallow.not_exceeds {pattern : String} (h : IsShallow pattern) :
    ¬ Pattern.Exceeds pattern .nestedTooDeep := by
  intro hexceeds
  have hcalls := hexceeds.callLimit_lt
  unfold IsShallow at h
  unfold Pattern.callLimit at hcalls
  omega

namespace Registry

/-- Arguments with few parentheses do not go beyond the limit of nesting. -/
lemma CallExceeds.not_nested {builds : String → Prop} {deeper : String → Fault → Prop}
    {name : String} {args : List String}
    (hdeeper : ∀ s, IsShallow s → ¬ deeper s .nestedTooDeep) (hargs : ∀ a ∈ args, IsShallow a) :
    ¬ CallExceeds builds deeper name args .nestedTooDeep := by
  intro h
  unfold CallExceeds at h
  split_ifs at h
  · obtain ⟨arg, count, -, -, ⟨⟩⟩ := h
  · obtain ⟨a, b, count, -, -, ⟨⟩⟩ := h
  · obtain ⟨arg, p, rfl, hparse, hexceeds⟩ := h
    have hpattern := (hargs arg (by simp)).of_sublist (PatternArgument.sublist_of_parse hparse)
    exact hpattern.not_exceeds hexceeds
  · obtain ⟨before, spec, after, rfl, -, hspec⟩ := h
    exact hdeeper spec (hargs spec (by simp)) hspec
  · obtain ⟨spec, rfl, hspec⟩ := h
    exact hdeeper spec (hargs spec (by simp)) hspec

lemma Exceeds.not_nested {n : Nat} {text : String} (h : IsShallow text) :
    ¬ Exceeds n text .nestedTooDeep := by
  induction n generalizing text with
  | zero => exact id
  | succ n ih =>
    rintro ⟨call, e, hparse, -, hcall⟩
    refine CallExceeds.not_nested (fun s hs => ih hs) (fun a ha => ?_) hcall
    exact h.of_sublist (Call.sublist_of_mem_args hparse ha)

lemma NameExceeds.not_nested {name : String} {args : List String} {depth : Int}
    (h : ∀ a ∈ args, IsShallow a) : ¬ NameExceeds name args depth .nestedTooDeep := by
  rintro ⟨e, -, hcall⟩
  exact CallExceeds.not_nested (fun _ hs => Exceeds.not_nested hs) h hcall

lemma ListExceeds.not_nested {specs : List String} (h : ∀ s ∈ specs, IsShallow s) :
    ¬ ListExceeds specs .nestedTooDeep := by
  rintro ⟨before, spec, after, hspecs, -, hexceeds⟩
  have hmem : spec ∈ specs.filter fun s => !Text.isBlankText s := by simp [hspecs]
  exact Exceeds.not_nested (h spec (List.mem_of_mem_filter hmem)) hexceeds

end Registry

/-! ### Reports of specs -/

namespace Suite

lemma published_english {α : Type} {r : Build α} (hr : FailsOnly BuildError.IsNamed r) :
    r.published .english = r := by
  rcases r with (e | f) | a
  · obtain ⟨message, hmessage⟩ := SpecError.text_english (hr _ rfl)
    rw [published, hmessage]
  · rfl
  · rfl

lemma published_build (spec : String) (depth : Int) :
    published .english (build spec depth) = build spec depth :=
  published_english (buildAt_primary _ _).isNamed

/-- An error with a name becomes a report, so that only faults are left. -/
lemma reported_fault_iff {α : Type} {r : Build α} (hr : FailsOnly BuildError.IsNamed r)
    {origin : String} {f : Fault} :
    reported .english origin r = .error f ↔ r = .error (.fault f) := by
  rcases r with (e | g) | a
  · obtain ⟨report, hreport⟩ := e.toReport_english (hr _ rfl) origin
    simp [reported, hreport, Except.map]
  · simp [reported]
  · simp [reported]

/-- Is an error of a construction a fault, or an error with a name of its own and a message? -/
def IsWorded (cat : Catalog) : BuildError → Prop
  | .spec e => e.isNamed ∧ ∃ message, e.text cat = .ok message
  | .fault _ => True

/-- The error of a spec in a list has a name of its own and a message, whatever the catalog is. -/
lemma blamed_isWorded (cat : Catalog) (spec : String) :
    FailsOnly (IsWorded cat) (blamed cat spec) := by
  rw [blamed]
  rcases parse cat spec with ⟨trace, (e | f) | v⟩
  · dsimp only [blaming, blame]
    cases e.text cat with
    | error f => exact .error trivial
    | ok reason =>
      dsimp only
      cases hmessage : (SpecError.malformed spec (.wrapped reason) (some e)).text cat with
      | error f => exact .error trivial
      | ok message => exact .error ⟨rfl, message, hmessage⟩
  · exact .error trivial
  · exact .ok v

lemma parseAll_isWorded (cat : Catalog) (specs : List String) :
    FailsOnly (IsWorded cat) (parseAll cat specs).result := by
  rw [parseAll_result]
  exact .mapM fun spec _ => blamed_isWorded cat spec

lemma parseAll_isNamed (cat : Catalog) (specs : List String) :
    FailsOnly BuildError.IsNamed (parseAll cat specs).result := by
  rintro (e | f) h
  · exact (parseAll_isWorded cat specs _ h).1
  · trivial

/-- English words every blame, so that a fault in a list is one of a spec in it. -/
lemma blamed_fault_iff {spec : String} {f : Fault} :
    blamed .english spec = .error (.fault f) ↔ build spec 0 = .error (.fault f) := by
  have hparse : (parse .english spec).result = build spec 0 := by
    rw [parse_result, published_build]
  have hnamed : FailsOnly BuildError.IsNamed (parse .english spec).result :=
    hparse ▸ (buildAt_primary _ _).isNamed
  rw [← hparse, blamed]
  generalize parse .english spec = r at hnamed ⊢
  rcases r with ⟨trace, (e | g) | v⟩
  · obtain ⟨reason, hreason⟩ := SpecError.text_english (hnamed _ rfl)
    have houter : (SpecError.malformed spec (.wrapped reason) (some e)).isNamed := rfl
    obtain ⟨message, hmessage⟩ := SpecError.text_english houter
    simp [blaming, blame, hreason, hmessage]
  · exact .rfl
  · exact .rfl

/-- Making a validator by its name fails where its arguments go beyond a limit. -/
lemma tryResolve_fault_iff {name : String} {args : List String} {depth : Int} {f : Fault} :
    tryResolve .english name args depth = .error f ↔ NameExceeds name args depth f := by
  have hnamed : FailsOnly BuildError.IsNamed (resolve name args depth) :=
    (resolveWith_primary (buildAt_primary _) name args).isNamed
  rw [tryResolve, published_english hnamed, reported_fault_iff hnamed, resolve_fault_iff]

/-- Making a suite fails where its list of specs goes beyond a limit. -/
lemma tryParse_fault_iff {specs : List String} {f : Fault} :
    (tryParse .english specs).result = .error f ↔ ListExceeds specs f := by
  rw [tryParse, reported_fault_iff (parseAll_isNamed _ _), parseAll_result, mapM_error_iff]
  simp only [blamed_ok_iff, blamed_fault_iff, build, buildAt_fault_iff]
  rfl

end Suite

/-! ### What is built or refused -/

lemma exists_ok_iff {ε α : Type} {r : Except ε α} : (∃ a, r = .ok a) ↔ ∀ e, r ≠ .error e := by
  cases r <;> simp

lemma forall_ne_iff {P : Fault → Prop} {f₀ : Fault} (h : ¬ P f₀) :
    (∀ f, f ≠ f₀ → ¬ P f) ↔ ∀ f, ¬ P f := by
  refine ⟨fun hne f hf => ?_, fun hall f _ => hall f⟩
  by_cases heq : f = f₀
  · exact h (heq ▸ hf)
  · exact hne f heq hf

/-- A spec with few parentheses becomes a validator or is refused with an error of the spec exactly
where, from left to right, no integer and no pattern goes beyond a limit; and where one does, this
is the fault. In the same way making a validator by its name and making a suite have a result. Specs
with more parentheses have a fault at least where they go beyond a limit, that of nesting included:
compiling what has been read may take more calls than reading. -/
theorem built_or_refused_iff (spec name : String) (args specs : List String) (depth : Nat) :
    (IsShallow spec →
      ((∃ v, build spec depth = .ok v) ∨ (∃ e, build spec depth = .error (.spec e)) ↔
        ∀ f, f ≠ .nestedTooDeep → ¬ Exceeds (levels depth) spec f) ∧
      ∀ f, build spec depth = .error (.fault f) ↔
        f ≠ .nestedTooDeep ∧ Exceeds (levels depth) spec f) ∧
    ((∀ a ∈ args, IsShallow a) →
      ((∃ r, Suite.tryResolve .english name args depth = .ok r) ↔
        ∀ f, f ≠ .nestedTooDeep → ¬ NameExceeds name args depth f)) ∧
    ((∀ s ∈ specs, IsShallow s) →
      ((∃ r, (Suite.tryParse .english specs).result = .ok r) ↔
        ∀ f, f ≠ .nestedTooDeep → ¬ ListExceeds specs f)) ∧
    ((∃ f, Exceeds (levels depth) spec f) → ∃ f, build spec depth = .error (.fault f)) := by
  have hbuild (f : Fault) :
      build spec depth = .error (.fault f) ↔ Exceeds (levels depth) spec f :=
    buildAt_fault_iff _ spec f
  refine ⟨fun hspec => ⟨?_, fun f => ?_⟩, fun hargs => ?_, fun hspecs => ?_, ?_⟩
  · rw [forall_ne_iff (Exceeds.not_nested hspec)]
    simp only [← hbuild]
    rcases build spec depth with (e | f) | v <;> simp
  · rw [hbuild, iff_and_self]
    rintro hexceeds rfl
    exact Exceeds.not_nested hspec hexceeds
  · rw [forall_ne_iff (NameExceeds.not_nested hargs)]
    simp only [exists_ok_iff, ← Suite.tryResolve_fault_iff, ne_eq]
  · rw [forall_ne_iff (ListExceeds.not_nested hspecs)]
    simp only [exists_ok_iff, ← Suite.tryParse_fault_iff, ne_eq]
  · rintro ⟨f, hf⟩
    exact ⟨f, (hbuild f).mpr hf⟩

/-- A spec that is built goes beyond no limit. -/
theorem built_or_refused_iff_minlength :
    IsShallow "minlength(3)" ∧
      ∀ f, f ≠ .nestedTooDeep → ¬ Exceeds (levels (0 : Nat)) "minlength(3)" f := by
  have hbuild : build "minlength(3)" (0 : Nat) =
      .ok (.leaf (.length .characters (some 3) none)) := by
    have hthree : (splitArguments "3").map unescapeValue = ["3"] := by decide +kernel
    have hone := build_minlength (by decide : (0 : Int) ≤ 10) hthree
    exact hone
  have hshallow : IsShallow "minlength(3)" := by decide
  obtain ⟨hiff, -⟩ := (built_or_refused_iff "minlength(3)" "" [] [] 0).1 hshallow
  exact ⟨hshallow, hiff.mp (.inl ⟨_, hbuild⟩)⟩

lemma callExceeds_regex {builds : String → Prop} {deeper : String → Fault → Prop} {arg : String}
    {f : Fault} (harg : PatternArgument.parse arg = .ok ⟨arg, arg⟩)
    (hcompile : Pattern.compile arg = .error (.fault f)) :
    CallExceeds builds deeper "regex" [arg] f := by
  rw [CallExceeds, if_neg (by decide), if_neg (by decide), if_pos (by decide)]
  exact ⟨arg, _, rfl, harg, Pattern.compile_fault_iff.mp hcompile⟩

lemma parse_parentheses {n : Nat} (hn : 0 < n) (rest : List Char) :
    PatternArgument.parse (String.ofList (List.replicate n '(' ++ rest)) =
      .ok ⟨String.ofList (List.replicate n '(' ++ rest),
        String.ofList (List.replicate n '(' ++ rest)⟩ := by
  obtain ⟨m, rfl⟩ : ∃ m, n = m + 1 := ⟨n - 1, by omega⟩
  rw [List.replicate_succ, List.cons_append]
  refine PatternArgument.parse_plain ?_ (by simp)
  intro hword
  have hchars := @String.toList_ofList ('(' :: (List.replicate m '(' ++ rest))
  rw [hchars] at hword
  change 'p' :: "attern:".toList <+: _ at hword
  exact absurd (List.cons_prefix_cons.mp hword).1 (by decide)

lemma ofString_parentheses (n : Nat) (rest : List Char) :
    Glyph.ofString (String.ofList (List.replicate n '(' ++ rest)) =
      List.replicate n (.plain '(') ++ Glyph.ofChars rest := by
  have hchars := @String.toList_ofList (List.replicate n '(' ++ rest)
  rw [Glyph.ofString, hchars]
  induction n with
  | zero => rfl
  | succ n ih =>
    rw [List.replicate_succ, List.replicate_succ, List.cons_append, List.cons_append,
      Glyph.ofChars_cons (by decide), ih String.toList_ofList]

/-- A pattern with a count that is too large, as a spec, as an argument and in a list; and patterns
with more than 496 groups inside each other. -/
theorem not_built_or_refused_regex :
    (build "regex(a\x7b4294967295\x7d)" 0 = .error (.fault .repeatTooLarge) ∧
      Suite.tryResolve .english "regex" ["a\x7b4294967295\x7d"] 0 = .error .repeatTooLarge ∧
      (Suite.tryParse .english [" ", "regex(a\x7b4294967295\x7d)"]).result =
        .error .repeatTooLarge) ∧
    ∀ n rest, 496 < n → Suite.tryResolve .english "regex"
      [String.ofList (List.replicate n '(' ++ rest)] 0 = .error .nestedTooDeep := by
  have hparse : Call.parse shapeFor "regex(a\x7b4294967295\x7d)" =
      .ok { name := "regex", rawArgs := "a\x7b4294967295\x7d"
            args := ["a\x7b4294967295\x7d"] } := by
    have hshape : shapeFor "regex" = .single := by
      rw [shapeFor, lookup?_regex]
      rfl
    have hcall := Call.parse_call shapeFor (w := "regex".toList) (by decide) (by decide)
      (by decide) (by decide) "a\x7b4294967295\x7d".toList
    rw [String.ofList_toList, hshape] at hcall
    exact hcall
  have hcount (builds : String → Prop) (deeper : String → Fault → Prop) :
      CallExceeds builds deeper "regex" ["a\x7b4294967295\x7d"] .repeatTooLarge :=
    callExceeds_regex rfl rfl
  have hspec : Exceeds (levels 0) "regex(a\x7b4294967295\x7d)" .repeatTooLarge :=
    ⟨_, _, hparse, lookup?_regex, hcount _ _⟩
  refine ⟨⟨(buildAt_fault_iff _ _ _).mpr hspec, ?_, ?_⟩, ?_⟩
  · exact Suite.tryResolve_fault_iff.mpr ⟨_, lookup?_regex, hcount _ _⟩
  · apply Suite.tryParse_fault_iff.mpr
    exact ⟨[], "regex(a\x7b4294967295\x7d)", [], by decide, by simp, hspec⟩
  · intro n rest hn
    have hcalls : Pattern.callLimit < 2 * n := by
      unfold Pattern.callLimit
      omega
    have hcompile := Pattern.compile_nested hcalls (ofString_parentheses n rest)
    exact Suite.tryResolve_fault_iff.mpr
      ⟨_, lookup?_regex, callExceeds_regex (parse_parentheses (by omega) rest) hcompile⟩

end ValueSpec
