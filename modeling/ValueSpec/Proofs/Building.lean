import Mathlib.Data.List.Find
import Mathlib.Data.List.Forall2
import ValueSpec.Proofs.Calls
import ValueSpec.Registry

namespace ValueSpec

/-! ### Results one after the other -/

lemma bind_eq_ok_iff {ε α β : Type} {r : Except ε α} {f : α → Except ε β} {b : β} :
    r >>= f = .ok b ↔ ∃ a, r = .ok a ∧ f a = .ok b := by
  cases r <;> simp [bind, Except.bind]

lemma mapError_eq_ok_iff {ε ε' α : Type} {r : Except ε α} {f : ε → ε'} {a : α} :
    r.mapError f = .ok a ↔ r = .ok a := by
  cases r <;> simp [Except.mapError]

/-- A list becomes a list if each thing in it becomes the thing in its place. -/
lemma mapM_eq_ok_iff {ε α β : Type} {f : α → Except ε β} {as : List α} {bs : List β} :
    as.mapM f = .ok bs ↔ List.Forall₂ (fun a b => f a = .ok b) as bs := by
  induction as generalizing bs with
  | nil => cases bs <;> simp [pure, Except.pure]
  | cons a as ih =>
    simp only [List.mapM_cons, bind_eq_ok_iff, ih, List.forall₂_cons_left_iff]
    constructor
    · rintro ⟨b, hb, bs', hbs, ⟨⟩⟩
      exact ⟨b, bs', hb, hbs, rfl⟩
    · rintro ⟨b, bs', hb, hbs, rfl⟩
      exact ⟨b, hb, bs', hbs, rfl⟩

lemma exists_forall₂_iff {α β : Type} {R : α → β → Prop} {as : List α} :
    (∃ bs, List.Forall₂ R as bs) ↔ ∀ a ∈ as, ∃ b, R a b := by
  induction as with
  | nil => simp
  | cons a as ih =>
    simp only [List.forall₂_cons_left_iff, List.forall_mem_cons, ← ih]
    constructor
    · rintro ⟨_, b, bs, hb, hbs, rfl⟩
      exact ⟨⟨b, hb⟩, bs, hbs⟩
    · rintro ⟨⟨b, hb⟩, bs, hbs⟩
      exact ⟨b :: bs, b, bs, hb, hbs, rfl⟩

namespace Build

variable {α β : Type}

@[simp] lemma ok_bind (a : α) (f : α → Build β) : (.ok a : Build α) >>= f = f a := rfl

@[simp] lemma error_bind (e : BuildError) (f : α → Build β) :
    (.error e : Build α) >>= f = .error e := rfl

@[simp] lemma refuse_bind (e : SpecError) (f : α → Build β) :
    (refuse e : Build α) >>= f = refuse e := rfl

lemma bind_ok_iff {r : Build α} {f : α → Build β} {b : β} :
    r >>= f = .ok b ↔ ∃ a, r = .ok a ∧ f a = .ok b := bind_eq_ok_iff

@[simp] lemma refuse_ne_ok (e : SpecError) (a : α) : (refuse e : Build α) ≠ .ok a := by
  simp [refuse]

/-- Two makers that make the same of single things make the same of lists of them. -/
lemma mapM_ok_congr {f g : α → Build β} (h : ∀ a b, f a = .ok b ↔ g a = .ok b) {as : List α}
    {bs : List β} : as.mapM f = .ok bs ↔ as.mapM g = .ok bs := by
  rw [mapM_eq_ok_iff, mapM_eq_ok_iff]
  simp only [h]

end Build

/-! ### Names in any case -/

/-- A text that differs from a name at most in the case of ASCII letters. -/
def Spells (w : List Char) (name : String) : Prop := w.map Char.toLower = name.toList

instance (w : List Char) (name : String) : Decidable (Spells w name) :=
  inferInstanceAs (Decidable (_ = _))

namespace Spells

/-- A name in lower case spells itself. -/
lemma refl {name : String} (h : name.toList.all Char.isLower) : Spells name.toList name := by
  have hlower : ∀ c ∈ name.toList, c.toLower = id c := by
    intro c hc
    have hrange : 97 ≤ c.val := by
      have hisLower := List.all_eq_true.mp h c hc
      exact of_decide_eq_true ((Bool.and_eq_true _ _).mp hisLower).1
    delta Char.toLower
    rw [dif_neg]
    · rfl
    · rintro ⟨-, hupper⟩
      exact absurd (UInt32.le_trans hrange hupper) (by decide)
  rw [Spells, List.map_congr_left hlower, List.map_id]

variable {w : List Char} {name : String}

lemma isAlpha (h : Spells w name) (hname : name.toList.all Char.isLower) :
    ∀ c ∈ w, c.isAlpha := by
  intro c hc
  apply Text.isAlpha_of_isLower_toLower
  rw [List.all_eq_true] at hname
  apply hname
  rw [← h]
  exact List.mem_map_of_mem hc

lemma stripChars_eq (h : Spells w name) (hname : name.toList.all Char.isLower) :
    Text.stripChars w = w := by
  apply Text.stripChars_eq_self
  · intro c hc
    exact (Text.ordinary_of_isAlpha (h.isAlpha hname c (List.mem_of_mem_head? hc))).1
  · intro c hc
    exact (Text.ordinary_of_isAlpha (h.isAlpha hname c (List.mem_of_mem_getLast? hc))).1

lemma not_mem (h : Spells w name) (hname : name.toList.all Char.isLower) {c : Char}
    (hc : c.isAlpha = false) : c ∉ w := by
  intro hmem
  simp [h.isAlpha hname c hmem] at hc

lemma fold_strip (h : Spells w name) (hname : name.toList.all Char.isLower) :
    Text.fold (Text.strip (String.ofList w)) = name := by
  have hascii : ∀ c ∈ w, c.toNat < 128 := fun c hc =>
    (Text.ordinary_of_isAlpha (h.isAlpha hname c hc)).2
  rw [Text.fold, Text.toList_strip, String.toList_ofList, h.stripChars_eq hname,
    Text.foldChars_eq_map_toLower hascii, h, String.ofList_toList]

end Spells

namespace Registry

/-- The names in the registry are in lower case. -/
lemma fold_of_mem_names {e : Entry} (he : e ∈ entries) {name : String} (hname : name ∈ e.names) :
    Text.fold name = name := by
  have hnames : ∀ e ∈ entries, ∀ name ∈ e.names,
      name.toList.all fun c => c.toNat < 128 && c.toLower = c := by decide +kernel
  have hlower : ∀ c ∈ name.toList, c.toNat < 128 ∧ c.toLower = c := by
    intro c hc
    simpa using List.all_eq_true.mp (hnames e he name hname) c hc
  rw [Text.fold, Text.foldChars_eq_map_toLower fun c hc => (hlower c hc).1]
  have hmap : name.toList.map Char.toLower = name.toList.map id :=
    List.map_congr_left fun c hc => (hlower c hc).2
  rw [hmap, List.map_id, String.ofList_toList]

/-- Looking a name up compares it with the names as they are written. -/
lemma lookup?_eq_find? (name : String) :
    lookup? name = entries.find? fun e => e.names.contains (Text.fold (Text.strip name)) := by
  unfold lookup?
  apply List.find?_congr
  intro e he
  generalize Text.fold (Text.strip name) = key
  rw [Bool.eq_iff_iff, List.any_eq_true, List.contains_iff_mem]
  constructor
  · rintro ⟨n, hn, hkey⟩
    have hn' : n = key := by simpa [fold_of_mem_names he hn] using hkey
    exact hn' ▸ hn
  · intro hkey
    exact ⟨key, hkey, by simp [fold_of_mem_names he hkey]⟩

lemma mem_entries_of_lookup? {name : String} {e : Entry} (h : lookup? name = some e) :
    e ∈ entries := by
  unfold lookup? at h
  exact List.mem_of_find?_eq_some h

/-- A name in any case finds what the name finds. -/
lemma lookup?_of_spells {w : List Char} {name : String} (h : Spells w name)
    (hname : name.toList.all Char.isLower) :
    lookup? (String.ofList w) = entries.find? fun e => e.names.contains name := by
  rw [lookup?_eq_find?, h.fold_strip hname]

/-- A name in lower case finds what is called by it. -/
lemma lookup?_of_isLower {name : String} (hname : name.toList.all Char.isLower) :
    lookup? name = entries.find? fun e => e.names.contains name := by
  have hlookup := lookup?_of_spells (.refl hname) hname
  rwa [String.ofList_toList] at hlookup

lemma lookup?_regex : lookup? "regex" = some { name := "regex", form := .whole pattern } :=
  lookup?_of_isLower (by decide)

section

variable {name : String} {e : Entry} (h : lookup? name = some e)

include h

lemma fold_mem_names : Text.fold (Text.strip name) ∈ e.names := by
  rw [lookup?_eq_find?] at h
  simpa using List.find?_some h

lemma stripChars_ne_nil_of_lookup? : Text.stripChars name.toList ≠ [] := by
  have hnames : ∀ e ∈ entries, "" ∉ e.names := by decide +kernel
  intro hnil
  have hfold := fold_mem_names h
  rw [Text.fold, Text.toList_strip, hnil] at hfold
  exact hnames e (mem_entries_of_lookup? h) hfold

/-- A name that finds something has no character with a meaning in a call. -/
lemma not_mem_of_lookup? {c : Char} (hc : c ∈ ['(', ':', '\\']) : c ∉ name.toList := by
  have hmarks : ['(', ':', '\\'].all fun c =>
      c.toNat < 128 ∧ c.toLower = c ∧ Text.isBlank c = false := by decide
  have hnames : ∀ e ∈ entries, ∀ n ∈ e.names, ['(', ':', '\\'].all (· ∉ n.toList) := by
    decide +kernel
  obtain ⟨hascii, hlower, hblank⟩ := of_decide_eq_true (List.all_eq_true.mp hmarks c hc)
  have hnot := List.all_eq_true.mp (hnames e (mem_entries_of_lookup? h) _ (fold_mem_names h)) c hc
  intro hmem
  apply of_decide_eq_true hnot
  rw [Text.fold, String.toList_ofList, Text.toList_strip]
  exact Text.mem_foldChars hascii hlower (Text.mem_stripChars hblank hmem)

/-- Blanks around a name do not matter. -/
lemma lookup?_stripChars : lookup? (String.ofList (Text.stripChars name.toList)) = some e := by
  have hstrip : Text.strip (String.ofList (Text.stripChars name.toList)) = Text.strip name := by
    simp [Text.strip]
  rw [← h, lookup?_eq_find?, lookup?_eq_find?, hstrip]

end

lemma find?_all : (entries.find? fun e => e.names.contains "all") =
    some { name := "all", form := .specs .all } := rfl

lemma find?_oneof : (entries.find? fun e => e.names.contains "oneof") =
    some { name := "oneof", form := .specs .any } := rfl

lemma find?_not : (entries.find? fun e => e.names.contains "not") =
    some { name := "not", form := .spec .not } := rfl

end Registry

/-! ### Levels -/

namespace Build

variable {α β : Type}

/-- The first result is the second one, or a refusal for depth. -/
def UpToDepth (r r' : Build α) : Prop := r = r' ∨ r = refuse (.tooDeep Registry.maxDepth)

lemma UpToDepth.refl (r : Build α) : UpToDepth r r := .inl rfl

lemma UpToDepth.bind {r r' : Build α} {f f' : α → Build β} (h : UpToDepth r r')
    (hf : ∀ a, UpToDepth (f a) (f' a)) : UpToDepth (r >>= f) (r' >>= f') := by
  rcases h with rfl | rfl
  · cases r with
    | error e => exact .inl rfl
    | ok a => exact hf a
  · exact .inr rfl

lemma UpToDepth.mapM {f f' : α → Build β} (hf : ∀ a, UpToDepth (f a) (f' a)) (as : List α) :
    UpToDepth (as.mapM f) (as.mapM f') := by
  induction as with
  | nil => exact .refl _
  | cons a as ih =>
    rw [List.mapM_cons, List.mapM_cons]
    exact (hf a).bind fun b => ih.bind fun bs => .refl _

end Build

open Build

/-- A wrapper of specs builds its arguments from left to right. -/
lemma Entry.make_specs {e : Entry} {f : List Validator → Validator} (h : e.form = .specs f)
    (nested : String → Build Validator) {args : List String} (hargs : args ≠ []) :
    e.make nested args = args.mapM nested >>= fun vs => pure (f vs) := by
  cases args with
  | nil => exact absurd rfl hargs
  | cons a rest =>
    unfold make
    rw [h]

lemma Entry.make_spec {e : Entry} {f : Validator → Validator} (h : e.form = .spec f)
    (nested : String → Build Validator) (arg : String) :
    e.make nested [arg] = nested arg >>= fun v => pure (f v) := by
  unfold make
  rw [h]

lemma Entry.make_upToDepth (e : Entry) {nested nested' : String → Build Validator}
    (h : ∀ s, UpToDepth (nested s) (nested' s)) (args : List String) :
    UpToDepth (e.make nested args) (e.make nested' args) := by
  unfold Entry.make
  split
  case h_7 =>
    rename_i f a rest _
    exact (UpToDepth.mapM h (a :: rest)).bind fun vs => .refl _
  case h_8 =>
    rename_i f a _
    exact (h a).bind fun v => .refl _
  all_goals exact .refl _

namespace Registry

lemma resolveWith_upToDepth {nested nested' : String → Build Validator}
    (h : ∀ s, UpToDepth (nested s) (nested' s)) (name : String) (args : List String) :
    UpToDepth (resolveWith nested name args) (resolveWith nested' name args) := by
  unfold resolveWith
  cases lookup? name with
  | none => exact .refl _
  | some e => exact e.make_upToDepth h args

/-- With fewer levels a spec becomes the same, or it is refused for its depth. -/
theorem buildAt_upToDepth {m n : Nat} (h : m ≤ n) (s : String) :
    UpToDepth (buildAt m s) (buildAt n s) := by
  induction m generalizing n s with
  | zero => exact .inr rfl
  | succ m ih =>
    cases n with
    | zero => omega
    | succ n =>
      rw [buildAt, buildAt]
      apply UpToDepth.bind (.refl _)
      intro call
      exact resolveWith_upToDepth (ih (Nat.le_of_succ_le_succ h)) call.name call.args

/-! ### Building calls -/

/-- Blanks around a spec do not matter. -/
lemma buildAt_congr {s s' : String} (h : Text.strip s = Text.strip s') (n : Nat) :
    buildAt n s = buildAt n s' := by
  cases n with
  | zero => rfl
  | succ n => rw [buildAt, buildAt, Call.parse_congr shapeFor h]

/-- A name alone is made by the entry that it finds, from no arguments. -/
lemma buildAt_name {name : String} {e : Entry} (h : lookup? name = some e) (n : Nat) :
    buildAt (n + 1) name = e.make (buildAt n) [] := by
  have hstrip : Text.strip name = Text.strip (String.ofList (Text.stripChars name.toList)) := by
    simp [Text.strip]
  have hname := lookup?_stripChars h
  have hmarks {c : Char} (hc : c ∈ ['(', ':', '\\']) : c ∉ Text.stripChars name.toList := by
    simpa using not_mem_of_lookup? hname hc
  rw [buildAt, Call.parse_congr shapeFor hstrip,
    Call.parse_name shapeFor (stripChars_ne_nil_of_lookup? h) (Text.stripChars_stripChars _)
      (hmarks (by simp)) (hmarks (by simp)),
    Build.ofSpec_ok, Build.ok_bind, resolveWith, hname]

/-- A call is made by the entry that its name finds, from the text between the parentheses. -/
lemma buildAt_call {w : List Char} {e : Entry} (h : lookup? (String.ofList w) = some e)
    (raw : List Char) (n : Nat) :
    buildAt (n + 1) (String.ofList (w ++ '(' :: (raw ++ [')']))) =
      e.make (buildAt n) (e.form.shape.split (String.ofList raw)) := by
  have hname := lookup?_stripChars h
  have hne := stripChars_ne_nil_of_lookup? h
  have hmarks {c : Char} (hc : c ∈ ['(', ':', '\\']) : c ∉ w := by
    simpa using not_mem_of_lookup? h hc
  rw [String.toList_ofList] at hname hne
  have hshape : shapeFor (String.ofList (Text.stripChars w)) = e.form.shape := by
    rw [shapeFor, hname]
    rfl
  rw [buildAt, Call.parse_padded_call shapeFor hne (hmarks (by simp)) (hmarks (by simp)) raw,
    Build.ofSpec_ok, Build.ok_bind, resolveWith, hname, hshape]

section

variable {name : String} {e : Entry} (h : lookup? name = some e) {depth : Int}
  (hdepth : depth ≤ 10)

include hdepth in
lemma levels_eq_succ : levels depth = levels (depth + 1) + 1 := by
  simp only [levels, maxDepth]
  omega

include h hdepth

lemma build_name : build name depth = e.make (buildAt (levels (depth + 1))) [] := by
  rw [build, levels_eq_succ hdepth, buildAt_name h]

/-- The arguments of a call at a depth are one level deeper. -/
lemma build_call (raw : String) :
    build (name ++ "(" ++ raw ++ ")") depth =
      e.make (buildAt (levels (depth + 1))) (e.form.shape.split raw) := by
  have htext : name ++ "(" ++ raw ++ ")" =
      String.ofList (name.toList ++ '(' :: (raw.toList ++ [')'])) := by
    rw [String.ext_iff]
    simp
  rw [← String.ofList_toList (s := name)] at h
  rw [build, levels_eq_succ hdepth, htext, buildAt_call h, String.ofList_toList]

/-- A validator of one value is made of this value. -/
lemma build_one {f : String → String → Build Validator} (hform : e.form = .one f)
    {raw value : String} (hraw : (splitArguments raw).map unescapeValue = [value]) :
    build (name ++ "(" ++ raw ++ ")") depth = f e.name value := by
  have hsplit : e.form.shape.split raw = [value] := by
    rw [hform]
    exact hraw
  rw [build_call h hdepth, hsplit]
  unfold Entry.make
  rw [hform]

/-- A validator of two values is made of these values. -/
lemma build_two {f : String → String → String → Build Validator} (hform : e.form = .two f)
    {raw a b : String} (hraw : (splitArguments raw).map unescapeValue = [a, b]) :
    build (name ++ "(" ++ raw ++ ")") depth = f e.name a b := by
  have hsplit : e.form.shape.split raw = [a, b] := by
    rw [hform]
    exact hraw
  rw [build_call h hdepth, hsplit]
  unfold Entry.make
  rw [hform]

/-- A validator of values is made of the values that the commas separate. -/
lemma build_some {f : List String → Validator} (hform : e.form = .some f) {raw : String}
    (hraw : splitArguments raw ≠ []) :
    build (name ++ "(" ++ raw ++ ")") depth = .ok (f ((splitArguments raw).map unescapeValue)) := by
  have hsplit : e.form.shape.split raw = (splitArguments raw).map unescapeValue := by
    rw [hform]
    rfl
  obtain ⟨arg, rest, hargs⟩ := List.exists_cons_of_ne_nil hraw
  rw [build_call h hdepth, hsplit, hargs, List.map_cons]
  unfold Entry.make
  rw [hform]
  rfl

/-- A validator of a text is made of all that stands between the parentheses. -/
lemma build_whole {f : String → Build Validator} (hform : e.form = .whole f) {raw : String}
    (hraw : raw ≠ "") : build (name ++ "(" ++ raw ++ ")") depth = f raw := by
  have hsplit : e.form.shape.split raw = [raw] := by
    rw [hform]
    exact if_neg hraw
  rw [build_call h hdepth, hsplit]
  unfold Entry.make
  rw [hform]

end

lemma build_minlength {depth : Int} (hdepth : depth ≤ 10) {raw arg : String}
    (hraw : (splitArguments raw).map unescapeValue = [arg]) :
    build ("minlength(" ++ raw ++ ")") depth =
      length "minlength" arg >>= fun n => pure (.leaf (.length .characters (some n) none)) := by
  have hlookup : lookup? "minlength" =
      some { name := "minlength", aliases := ["minlen"]
             form := lengthForm .characters fun n => (some n, none) } :=
    lookup?_of_isLower (by decide)
  exact build_one hlookup hdepth rfl hraw

/-- The name of an entry with a fixed validator stands for this validator. -/
lemma build_fixed {name : String} {v : Validator} (hname : name.toList.all Char.isLower)
    (hentry : (entries.find? fun e => e.names.contains name).map (·.form) = some (.fixed v))
    {depth : Int} (hdepth : depth ≤ 10) : build name depth = .ok v := by
  obtain ⟨e, he, hform⟩ := Option.map_eq_some_iff.mp hentry
  rw [build_name ((lookup?_of_isLower hname).trans he) hdepth]
  unfold Entry.make
  rw [hform]
  rfl

/-! ### Forms that hold no specs -/

/-- The names of the validators that are made of specs. -/
def wrappers : List String := ["all", "oneof", "not"]

/-- An entry that is no wrapper does not build any of its arguments. -/
lemma make_eq_of_not_wrapper {e : Entry} (he : e ∈ entries) (hname : e.name ∉ wrappers)
    (nested nested' : String → Build Validator) (args : List String) :
    e.make nested args = e.make nested' args := by
  have hforms : ∀ e ∈ entries, e.name ∉ wrappers →
      (∀ f, e.form ≠ .specs f) ∧ ∀ f, e.form ≠ .spec f := by
    simp [entries, wrappers, lengthForm]
  obtain ⟨hspecs, hspec⟩ := hforms e he hname
  unfold Entry.make
  split <;> first | rfl | exact absurd ‹_› (hspecs _) | exact absurd ‹_› (hspec _)

end Registry

end ValueSpec
