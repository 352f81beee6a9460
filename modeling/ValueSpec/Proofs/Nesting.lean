import ValueSpec.Proofs.Building

/-!
# Nested specs

A tree of specs has texts at its leaves and the wrappers `not`, `all` and `oneof` above them. It
can be written with blanks around every part and with the wrappers in any letter case. What is
built of such a text is the tree itself, with a validator in the place of every leaf, as long as
no leaf has more wrappers around it than there are levels.
-/

namespace ValueSpec

open Balance

/-! ### Trees of specs -/

/-- The wrappers of several specs. -/
inductive Mode
  | all
  | oneof
  deriving DecidableEq, Repr

namespace Mode

/-- The name of a wrapper. -/
def name : Mode → String
  | all => "all"
  | oneof => "oneof"

/-- What a wrapper makes of validators. -/
def combine : Mode → List Validator → Validator
  | all => .all
  | oneof => .any

/-- The entry of a wrapper. -/
def entry (mode : Mode) : Entry := { name := mode.name, form := .specs mode.combine }

lemma find?_name (mode : Mode) :
    (Registry.entries.find? fun e => e.names.contains mode.name) = some mode.entry := by
  cases mode with
  | all => exact Registry.find?_all
  | oneof => exact Registry.find?_oneof

lemma name_isLower (mode : Mode) : mode.name.toList.all Char.isLower := by
  cases mode <;> decide

end Mode

mutual

/-- A tree of specs; a group has at least one child. -/
inductive SpecTree
  | leaf (text : String)
  | not (t : SpecTree)
  | group (mode : Mode) (ts : SpecForest)

/-- One or more trees of specs. -/
inductive SpecForest
  | one (t : SpecTree)
  | more (t : SpecTree) (ts : SpecForest)

end

mutual

/-- The texts at the leaves. -/
def SpecTree.leaves : SpecTree → List String
  | .leaf text => [text]
  | .not t => t.leaves
  | .group _ ts => ts.leaves

/-- The texts at the leaves of several trees. -/
def SpecForest.leaves : SpecForest → List String
  | .one t => t.leaves
  | .more t ts => t.leaves ++ ts.leaves

end

mutual

/-- The greatest number of wrappers around a leaf. -/
def SpecTree.height : SpecTree → Nat
  | .leaf _ => 0
  | .not t => t.height + 1
  | .group _ ts => ts.height + 1

/-- The greatest number of wrappers around a leaf in several trees. -/
def SpecForest.height : SpecForest → Nat
  | .one t => t.height
  | .more t ts => max t.height ts.height

end

mutual

/-- The tree of validators that has `f text` in the place of every leaf. -/
def SpecTree.mirror (f : String → Validator) : SpecTree → Validator
  | .leaf text => f text
  | .not t => .not (t.mirror f)
  | .group mode ts => mode.combine (ts.mirror f)

/-- The trees of validators of several trees, in order. -/
def SpecForest.mirror (f : String → Validator) : SpecForest → List Validator
  | .one t => [t.mirror f]
  | .more t ts => t.mirror f :: ts.mirror f

end

mutual

/-- The ways to write a tree. -/
inductive SpecTree.Written : SpecTree → List Char → Prop
  | leaf {text : String} {l r : List Char} (hl : ∀ c ∈ l, Text.isBlank c)
      (hr : ∀ c ∈ r, Text.isBlank c) :
      SpecTree.Written (.leaf text) (l ++ text.toList ++ r)
  | not {t : SpecTree} {w cs l r : List Char} (hw : Spells w "not") (h : SpecTree.Written t cs)
      (hl : ∀ c ∈ l, Text.isBlank c) (hr : ∀ c ∈ r, Text.isBlank c) :
      SpecTree.Written (.not t) (l ++ (w ++ '(' :: (cs ++ [')'])) ++ r)
  | group {mode : Mode} {ts : SpecForest} {w l r : List Char} {css : List (List Char)}
      (hw : Spells w mode.name) (h : SpecForest.Written ts css) (hl : ∀ c ∈ l, Text.isBlank c)
      (hr : ∀ c ∈ r, Text.isBlank c) :
      SpecTree.Written (.group mode ts) (l ++ (w ++ '(' :: ([','].intercalate css ++ [')'])) ++ r)

/-- The ways to write several trees, one text for each. -/
inductive SpecForest.Written : SpecForest → List (List Char) → Prop
  | one {t : SpecTree} {cs : List Char} (h : SpecTree.Written t cs) :
      SpecForest.Written (.one t) [cs]
  | more {t : SpecTree} {ts : SpecForest} {cs : List Char} {css : List (List Char)}
      (h : SpecTree.Written t cs) (hs : SpecForest.Written ts css) :
      SpecForest.Written (.more t ts) (cs :: css)

end

/-- A text that may stand at a leaf, and the validator that it is a spec of. It is no wrapper
itself, closes only the brackets that it opens, and has its commas between brackets. -/
structure Admissible (text : String) (v : Validator) : Prop where
  nonempty : text ≠ ""
  stripped : Text.strip text = text
  builds : Registry.build text 0 = .ok v
  not_wrapper : ∀ call, Call.parse Registry.shapeFor text = .ok call →
    ∀ e, Registry.lookup? call.name = some e → e.name ∉ Registry.wrappers
  settles : Settles Nests zero (Glyph.ofString text)

/-! ### Written trees keep their commas -/

lemma settles_call {w cs : List Char} {name : String} (hw : Spells w name)
    (hlower : name.toList.all Char.isLower) (h : Settles Opens zero (Glyph.ofChars cs)) :
    Settles Nests zero (Glyph.ofChars (w ++ '(' :: (cs ++ [')']))) := by
  have hname : Settles Nests zero (Glyph.ofChars w) := by
    rw [Glyph.ofChars_eq_map (hw.not_mem hlower (by decide))]
    apply settles_map_plain
    intro c hc hspecial
    have hplain : ['(', ')', '\x7b', '\x7d', ','].all (!Char.isAlpha ·) := by decide
    have halpha := List.all_eq_true.mp hplain c hspecial
    exact hw.not_mem hlower (by simpa using halpha) hc
  rw [Glyph.ofChars_append hname.not_dangling, Glyph.ofChars_cons (by decide),
    Glyph.ofChars_append h.not_dangling]
  exact hname.append h.parenthesize

lemma settles_intercalate {css : List (List Char)}
    (h : ∀ cs ∈ css, Settles Opens zero (Glyph.ofChars cs)) :
    Settles Opens zero (Glyph.ofChars ([','].intercalate css)) := by
  induction css with
  | nil => rfl
  | cons cs rest ih =>
    have hcs := h cs (by simp)
    cases rest with
    | nil => simpa using hcs
    | cons ds rest =>
      have hrest := ih fun es hes => h es (by simp [hes])
      rw [List.intercalate_cons_cons, List.append_assoc, List.singleton_append,
        Glyph.ofChars_append hcs.not_dangling, Glyph.ofChars_cons (by decide)]
      exact hcs.append ⟨by simp, by simp [Opens, step, zero], hrest⟩

mutual

lemma SpecTree.Written.settles {t : SpecTree} {cs : List Char} (h : t.Written cs)
    (hleaves : ∀ s ∈ t.leaves, Settles Nests zero (Glyph.ofString s)) :
    Settles Nests zero (Glyph.ofChars cs) := by
  match h with
  | .leaf hl hr =>
    have hleaf := hleaves _ (List.mem_singleton_self _)
    exact hleaf.pad (fun _ _ hg => hg) hl hr
  | .not hw ht hl hr =>
    have hinner := ht.settles fun s hs => hleaves s (by simpa [SpecTree.leaves] using hs)
    have hcall := settles_call hw (by decide) (hinner.mono fun _ _ => Nests.opens)
    exact hcall.pad (fun _ _ hg => hg) hl hr
  | @SpecTree.Written.group mode _ _ _ _ _ hw hts hl hr =>
    have hinner := hts.settles fun s hs => hleaves s (by simpa [SpecTree.leaves] using hs)
    apply Settles.pad (fun _ _ hg => hg) hl hr
    apply settles_call hw mode.name_isLower
    exact settles_intercalate fun cs hcs => (hinner cs hcs).mono fun _ _ => Nests.opens

lemma SpecForest.Written.settles {ts : SpecForest} {css : List (List Char)} (h : ts.Written css)
    (hleaves : ∀ s ∈ ts.leaves, Settles Nests zero (Glyph.ofString s)) :
    ∀ cs ∈ css, Settles Nests zero (Glyph.ofChars cs) := by
  match h with
  | .one ht =>
    intro cs hcs
    rw [List.mem_singleton.mp hcs]
    exact ht.settles fun s hs => hleaves s (by simpa [SpecForest.leaves] using hs)
  | .more ht hts =>
    intro cs hcs
    rcases List.mem_cons.mp hcs with rfl | hrest
    · exact ht.settles fun s hs => hleaves s (by simp [SpecForest.leaves, hs])
    · exact hts.settles (fun s hs => hleaves s (by simp [SpecForest.leaves, hs])) cs hrest

end

/-! ### Written trees are not blank -/

lemma Admissible.stripChars_eq {text : String} {v : Validator} (h : Admissible text v) :
    Text.stripChars text.toList = text.toList := by
  rw [← Text.toList_strip, h.stripped]

lemma stripChars_call_ne_nil (w cs : List Char) :
    Text.stripChars (w ++ '(' :: (cs ++ [')'])) ≠ [] := by
  intro hnil
  have hopen := Text.stripChars_eq_nil_iff.mp hnil '(' (by simp)
  exact absurd hopen (by decide)

lemma SpecTree.Written.stripChars_ne_nil {t : SpecTree} {cs : List Char} (h : t.Written cs)
    {f : String → Validator} (hleaves : ∀ s ∈ t.leaves, Admissible s (f s)) :
    Text.stripChars cs ≠ [] := by
  cases h with
  | @leaf text l r hl hr =>
    have htext := hleaves text (by simp [SpecTree.leaves])
    rw [Text.stripChars_pad hl hr, htext.stripChars_eq]
    simpa using htext.nonempty
  | not hw ht hl hr =>
    rw [Text.stripChars_pad hl hr]
    exact stripChars_call_ne_nil _ _
  | group hw hts hl hr =>
    rw [Text.stripChars_pad hl hr]
    exact stripChars_call_ne_nil _ _

lemma SpecForest.Written.stripChars_ne_nil {ts : SpecForest} {css : List (List Char)}
    (h : ts.Written css) {f : String → Validator} (hleaves : ∀ s ∈ ts.leaves, Admissible s (f s)) :
    ∀ cs ∈ css, Text.stripChars cs ≠ [] := by
  match h with
  | .one ht =>
    intro cs hcs
    rw [List.mem_singleton.mp hcs]
    exact ht.stripChars_ne_nil fun s hs => hleaves s (by simpa [SpecForest.leaves] using hs)
  | .more ht hts =>
    intro cs hcs
    rcases List.mem_cons.mp hcs with rfl | hrest
    · exact ht.stripChars_ne_nil fun s hs => hleaves s (by simp [SpecForest.leaves, hs])
    · exact hts.stripChars_ne_nil (fun s hs => hleaves s (by simp [SpecForest.leaves, hs])) cs hrest

lemma SpecForest.Written.ne_nil {ts : SpecForest} {css : List (List Char)} (h : ts.Written css) :
    css ≠ [] := by
  cases h <;> simp

/-! ### Building written trees -/

namespace Registry

/-- A leaf becomes its validator wherever there is a level for it. -/
lemma buildAt_admissible {text : String} {v : Validator} (h : Admissible text v) (n : Nat) :
    buildAt (n + 1) text = .ok v := by
  have hbuilds : buildAt 11 text = .ok v := h.builds
  rw [buildAt] at hbuilds ⊢
  cases hparse : Call.parse shapeFor text with
  | error e => simp [hparse] at hbuilds
  | ok call =>
    rw [hparse, Build.ofSpec_ok, Build.ok_bind, resolveWith] at hbuilds
    rw [Build.ofSpec_ok, Build.ok_bind, resolveWith]
    cases hlookup : lookup? call.name with
    | none => simp [hlookup] at hbuilds
    | some e =>
      rw [hlookup] at hbuilds
      rw [← hbuilds]
      exact make_eq_of_not_wrapper (mem_entries_of_lookup? hlookup)
        (h.not_wrapper call hparse e hlookup) _ _ _

lemma buildAt_pad {l r : List Char} (hl : ∀ c ∈ l, Text.isBlank c)
    (hr : ∀ c ∈ r, Text.isBlank c) (cs : List Char) (n : Nat) :
    buildAt n (String.ofList (l ++ cs ++ r)) = buildAt n (String.ofList cs) := by
  apply buildAt_congr
  simp only [Text.strip, String.toList_ofList, Text.stripChars_pad hl hr]

lemma buildAt_not {w cs : List Char} (hw : Spells w "not") (hcs : Text.stripChars cs ≠ [])
    (n : Nat) :
    buildAt (n + 1) (String.ofList (w ++ '(' :: (cs ++ [')']))) =
      buildAt n (String.ofList cs) >>= fun v => pure (.not v) := by
  have hstrip : Text.strip (String.ofList cs) = String.ofList (Text.stripChars cs) := by
    rw [Text.strip, String.toList_ofList]
  have hsplit : ArgShape.nestedOne.split (String.ofList cs) = [Text.strip (String.ofList cs)] := by
    simp [ArgShape.split, hstrip, hcs]
  have hcongr : buildAt n (Text.strip (String.ofList cs)) = buildAt n (String.ofList cs) := by
    apply buildAt_congr
    simp [Text.strip]
  have hlookup : lookup? (String.ofList w) = some { name := "not", form := .spec .not } :=
    (lookup?_of_spells hw (by decide)).trans find?_not
  rw [buildAt_call hlookup, Form.shape, hsplit, Entry.make_spec rfl, hcongr]

lemma buildAt_group {w : List Char} {mode : Mode} (hw : Spells w mode.name)
    {css : List (List Char)} (hne : css ≠ [])
    (hcss : ∀ cs ∈ css, Settles Keeps zero (Glyph.ofChars cs) ∧ Text.stripChars cs ≠ [])
    (n : Nat) :
    buildAt (n + 1) (String.ofList (w ++ '(' :: ([','].intercalate css ++ [')']))) =
      (css.mapM fun cs => buildAt n (String.ofList cs)) >>= fun vs => pure (mode.combine vs) := by
  have hcongr : ∀ cs, buildAt n (String.ofList (Text.stripChars cs)) =
      buildAt n (String.ofList cs) := by
    intro cs
    apply buildAt_congr
    simp [Text.strip]
  have hsplit : ArgShape.nested.split (String.ofList ([','].intercalate css)) =
      css.map fun cs => String.ofList (Text.stripChars cs) := by
    rw [ArgShape.split, splitArguments_intercalate hne hcss]
  have hlookup : lookup? (String.ofList w) = some mode.entry :=
    (lookup?_of_spells hw mode.name_isLower).trans mode.find?_name
  rw [buildAt_call hlookup, Mode.entry, Form.shape, hsplit,
    Entry.make_specs rfl _ (by simpa using hne), List.mapM_map]
  simp only [hcongr, Function.comp_def]

/-- A result that needs more levels than the given height. -/
def within {α : Type} (levels height : Nat) (a : α) : Build α :=
  if height < levels then .ok a else Build.refuse (.tooDeep maxDepth)

section

variable {α β γ : Type} (n height height' : Nat) (a : α) (b : β)

lemma within_bind (f : α → β) :
    (within n height a >>= fun a => pure (f a)) = within n height (f a) := by
  unfold within
  split_ifs <;> rfl

lemma within_succ : within (n + 1) (height + 1) a = within n height a := by
  simp [within]

lemma within_bind_within (f : α → β → γ) :
    (within n height a >>= fun a => within n height' b >>= fun b => pure (f a b)) =
      within n (max height height') (f a b) := by
  simp only [within_bind]
  unfold within
  split_ifs <;> first | rfl | omega

end

end Registry

open Registry

/- The number of levels goes down by one with every wrapper, and so does the height of the tree. In
a group the first child that is too high is refused, after the children before it are built. -/
mutual

lemma SpecTree.Written.buildAt_eq {t : SpecTree} {cs : List Char} (h : t.Written cs)
    {f : String → Validator} (hleaves : ∀ s ∈ t.leaves, Admissible s (f s)) (n : Nat) :
    buildAt n (String.ofList cs) = within n t.height (t.mirror f) := by
  match n with
  | 0 => simp [buildAt, within]
  | n + 1 =>
    match h with
    | @SpecTree.Written.leaf text _ _ hl hr =>
      rw [buildAt_pad hl hr, String.ofList_toList,
        buildAt_admissible (hleaves text (by simp [SpecTree.leaves]))]
      simp [within, SpecTree.height, SpecTree.mirror]
    | .not hw ht hl hr =>
      have hchild : ∀ s ∈ _, Admissible s (f s) := fun s hs =>
        hleaves s (by simpa [SpecTree.leaves] using hs)
      rw [buildAt_pad hl hr, buildAt_not hw (ht.stripChars_ne_nil hchild),
        ht.buildAt_eq hchild n, within_bind]
      rw [SpecTree.height, within_succ, SpecTree.mirror]
    | .group hw hts hl hr =>
      have hchildren : ∀ s ∈ _, Admissible s (f s) := fun s hs =>
        hleaves s (by simpa [SpecTree.leaves] using hs)
      have hsegments := hts.settles fun s hs => (hchildren s hs).settles
      have hblank := hts.stripChars_ne_nil hchildren
      rw [buildAt_pad hl hr, buildAt_group hw hts.ne_nil, hts.mapM_buildAt_eq hchildren n,
        within_bind]
      · rw [SpecTree.height, within_succ, SpecTree.mirror]
      · intro cs hcs
        exact ⟨(hsegments cs hcs).mono fun _ _ => Nests.keeps, hblank cs hcs⟩

lemma SpecForest.Written.mapM_buildAt_eq {ts : SpecForest} {css : List (List Char)}
    (h : ts.Written css) {f : String → Validator} (hleaves : ∀ s ∈ ts.leaves, Admissible s (f s))
    (n : Nat) :
    (css.mapM fun cs => buildAt n (String.ofList cs)) = within n ts.height (ts.mirror f) := by
  match h with
  | .one ht =>
    have hchild := ht.buildAt_eq (fun s hs => hleaves s (by simpa [SpecForest.leaves] using hs)) n
    rw [List.mapM_cons, hchild]
    exact within_bind n _ _ fun v => [v]
  | .more ht hts =>
    have hfirst := ht.buildAt_eq (fun s hs => hleaves s (by simp [SpecForest.leaves, hs])) n
    have hrest := hts.mapM_buildAt_eq (fun s hs => hleaves s (by simp [SpecForest.leaves, hs])) n
    rw [List.mapM_cons, hfirst, hrest]
    exact within_bind_within n _ _ _ _ List.cons

end

/-! ### The grammar builds what is written -/

/-- A written tree becomes its mirror if no leaf has more wrappers around it than there are
levels, and is refused for its depth otherwise. -/
theorem build_written {t : SpecTree} {cs : List Char} (h : t.Written cs) {f : String → Validator}
    (hleaves : ∀ s ∈ t.leaves, Admissible s (f s)) :
    build (String.ofList cs) 0 =
      if (t.height : Int) ≤ maxDepth then .ok (t.mirror f)
      else .error (.spec (.tooDeep maxDepth)) := by
  have hlevels : levels 0 = 11 := rfl
  rw [build, hlevels, h.buildAt_eq hleaves, within]
  have hheight : t.height < 11 ↔ (t.height : Int) ≤ maxDepth := by
    simp only [maxDepth]
    omega
  simp only [hheight]
  rfl

/-- Blanks, capital letters, and commas of a leaf between those of the wrappers. -/
theorem build_written_oneof :
    ∃ (t : SpecTree) (f : String → Validator),
      t.Written " OneOf( all( url(http,https) ,email),\tNOT(email ) )".toList ∧
      (∀ s ∈ t.leaves, Admissible s (f s)) ∧
      build " OneOf( all( url(http,https) ,email),\tNOT(email ) )" 0 =
        .ok (.any [.all [.leaf (.url ["http", "https"]), .leaf .email], .not (.leaf .email)]) := by
  have hemail : Admissible "email" (.leaf .email) :=
    { nonempty := by decide
      stripped := by decide
      builds := rfl
      not_wrapper := by
        intro call hcall e he
        obtain rfl : { name := "email" } = call := Except.ok.inj hcall
        obtain rfl : { name := "email", form := .fixed (.leaf .email) } = e := Option.some.inj he
        decide
      settles := by decide }
  have hurl : Admissible "url(http,https)" (.leaf (.url ["http", "https"])) :=
    { nonempty := by decide
      stripped := by decide
      builds := rfl
      not_wrapper := by
        intro call hcall e he
        obtain rfl : { name := "url", rawArgs := "http,https", args := ["http", "https"] } = call :=
          Except.ok.inj hcall
        obtain rfl : { name := "url", form := .many fun schemes => .leaf (.url schemes) } = e :=
          Option.some.inj he
        decide
      settles := by decide }
  have hblank : ∀ c ∈ [' '], Text.isBlank c := List.all_eq_true.mp rfl
  have htab : ∀ c ∈ ['\t'], Text.isBlank c := List.all_eq_true.mp rfl
  have hnone : ∀ c ∈ ([] : List Char), Text.isBlank c := List.all_eq_true.mp rfl
  have hleft : SpecTree.Written
      (.group .all (.more (.leaf "url(http,https)") (.one (.leaf "email"))))
      " all( url(http,https) ,email)".toList :=
    .group (w := "all".toList) (by decide)
      (.more (.leaf hblank hblank) (.one (.leaf hnone hnone))) hblank hnone
  have hright : SpecTree.Written (.not (.leaf "email")) "\tNOT(email ) ".toList :=
    .not (w := "NOT".toList) (by decide) (.leaf hnone hblank) htab hblank
  have hwhole : SpecTree.Written (.group .oneof (.more _ (.one _)))
      " OneOf( all( url(http,https) ,email),\tNOT(email ) )".toList :=
    .group (w := "OneOf".toList) (by decide) (.more hleft (.one hright)) hblank hnone
  let f (s : String) : Validator :=
    if s = "email" then .leaf .email else .leaf (.url ["http", "https"])
  have hleaves : ∀ s ∈ ["url(http,https)", "email", "email"], Admissible s (f s) := by
    simp only [List.forall_mem_cons]
    exact ⟨hurl, hemail, hemail, by simp⟩
  refine ⟨_, f, hwhole, hleaves, ?_⟩
  exact build_written hwhole hleaves

end ValueSpec
