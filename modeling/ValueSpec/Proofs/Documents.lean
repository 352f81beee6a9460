import Mathlib.Data.List.Nodup
import ValueSpec.Proofs.Faults
import ValueSpec.Proofs.Messages
import ValueSpec.Proofs.Refutations

namespace ValueSpec

/-! ### Records -/

namespace Record

variable {α β : Type}

lemma set_of_not_mem {r : Record α} {name : String} (h : name ∉ r.names) (a : α) :
    r.set name a = r ++ [(name, a)] := by
  induction r with
  | nil => rfl
  | cons e r ih =>
    obtain ⟨n, b⟩ := e
    rw [names, List.map_cons, List.mem_cons, not_or] at h
    rw [set, if_neg (Ne.symm h.1), ih h.2, List.cons_append]

@[simp] lemma names_mapValues (f : α → β) (r : Record α) : (r.mapValues f).names = r.names := by
  simp [names, mapValues]

@[simp] lemma names_append (r s : Record α) : (r ++ s).names = r.names ++ s.names := by
  simp [names]

/-- Records without common names are laid over one another by appending them. -/
lemma overlay_of_disjoint {r upper : Record α} (hnodup : upper.names.Nodup)
    (hdisjoint : ∀ n ∈ upper.names, n ∉ r.names) : r.overlay upper = r ++ upper := by
  induction upper generalizing r with
  | nil => simp
  | cons e upper ih =>
    obtain ⟨n, a⟩ := e
    rw [names, List.map_cons] at hnodup hdisjoint
    rw [List.nodup_cons] at hnodup
    rw [List.forall_mem_cons] at hdisjoint
    rw [overlay_cons, set_of_not_mem hdisjoint.1, ih hnodup.2, List.append_assoc,
      List.singleton_append]
    intro m hm hmem
    rw [names_append, List.mem_append] at hmem
    obtain hr | hn := hmem
    · exact hdisjoint.2 m hm hr
    · obtain rfl := List.mem_singleton.mp hn
      exact hnodup.1 hm

/-- A record is laid over an entry with a name of its own by putting this entry before it. -/
lemma overlay_singleton {upper : Record α} {name : String} (a : α)
    (h : (name :: upper.names).Nodup) : overlay [(name, a)] upper = (name, a) :: upper := by
  obtain ⟨hname, hnodup⟩ := List.nodup_cons.mp h
  rw [overlay_of_disjoint hnodup]
  · rfl
  · intro n hn hmem
    rw [List.mem_singleton.mp hmem] at hn
    exact hname hn

end Record

/-! ### Fields of templates -/

/-- The names in the fields of a template. -/
def Template.fieldNames (template : List Char) : List String :=
  (pieces template).filterMap fun
    | .field f => some (String.ofList f.path)
    | _ => none

/-! ### Names of parameters -/

/-- The codes of rejections, each with the names of its parameters. -/
def Rejection.usualNames : List (Code × List String) :=
  Leaf.complaintNames ++ [(.combinedFailed, []), (.valueCannotBe, [])]

/-- The codes of errors of specs, each with the names of its parameters. -/
def SpecError.usualNames : List (Code × List String) :=
  [(.invalidValidator, ["spec", "reason"]), (.requiresArgument, ["validator", "expected"]),
   (.requiresAtLeastOneArgument, ["validator"]), (.argumentMustBeInteger, ["validator"]),
   (.argumentMustBeNumber, ["validator"]), (.argumentCannotBeNegative, ["validator"]),
   (.unknownValidator, ["name"]), (.recursionDepthExceeded, ["max_depth"]),
   (.mustUseParentheses, ["spec"]), (.invalidPattern, ["pattern", "reason"])]

/-- The English message of a code names its parameters only. That of a rejection may name the value
too, and that of a combined one the reasons. -/
lemma Code.fieldNames_english (c : Code) : ∀ p ∈ Rejection.usualNames ++ SpecError.usualNames,
    p.1 = c → ∀ f ∈ Template.fieldNames c.english.toList,
      f ∈ p.2 ∨ c.category = .validation ∧ (f = "value" ∨ f = "reasons" ∧ c = .combinedFailed) := by
  refine holds_of_ofList (P := fun cs =>
    ∀ p ∈ Rejection.usualNames ++ SpecError.usualNames, p.1 = c →
      ∀ f ∈ Template.fieldNames cs, f ∈ p.2 ∨
        c.category = .validation ∧ (f = "value" ∨ f = "reasons" ∧ c = .combinedFailed)) ?_
  cases c <;> exact ⟨_, rfl, by decide +kernel⟩

/-! ### Rejections -/

namespace Rejection

/-- The names of the other entries of documents and reports. -/
def reservedNames : List String :=
  ["code", "key", "validator", "value", "message", "sub_failures", "valid", "input", "origin"]

/-- A rejection whose parameters go with its code, are all there and can be written. -/
structure Usual (r : Rejection) : Prop where
  names : (r.code, r.params.names) ∈ usualNames
  present : ∀ e ∈ r.params, e.2 ≠ .absent
  short : (Params.integers r.params).all Integer.isShort

/-- What is inside of a rejection by a validator is usual. -/
lemma usual_of_mem_nodes {v : Validator} {value : String} {why : Rejection}
    (h : v.Gives value (.rejected why)) : ∀ r ∈ why.nodes, r.Usual := by
  refine Validator.forall_nodes ?_ ?_ ?_ h
  · intro l hname code params hcomplaint
    obtain ⟨hnames, hpresent⟩ := Leaf.usual_complaint? hcomplaint _ rfl
    exact ⟨List.mem_append_left _ hnames, hpresent, Leaf.isShort_complaint? hname hcomplaint⟩
  · intro vs whys _
    exact ⟨by simp [usualNames, Record.names], by simp, rfl⟩
  · intro v
    exact ⟨by simp [usualNames, Record.names], by simp, rfl⟩

namespace Usual

variable {r : Rejection} (h : r.Usual)

include h

/-- What the English message names is there. -/
lemma fields : ∀ f ∈ Template.fieldNames r.code.english.toList,
    f = "value" ∨ (f = "reasons" ∧ r.code = .combinedFailed) ∨ f ∈ r.params.names := by
  intro f hf
  have hmem := List.mem_append_left SpecError.usualNames h.names
  obtain hparams | ⟨-, hvalue | hreasons⟩ := r.code.fieldNames_english _ hmem rfl f hf
  · exact .inr (.inr hparams)
  · exact .inl hvalue
  · exact .inr (.inl hreasons)

lemma not_reserved : ∀ name ∈ r.params.names, name ∉ reservedNames := by
  have htable : ∀ p ∈ usualNames, ∀ name ∈ p.2, name ∉ reservedNames := by decide +kernel
  exact htable _ h.names

lemma nodup : r.params.names.Nodup := by
  have htable : ∀ p ∈ usualNames, p.2.Nodup := by decide +kernel
  exact htable _ h.names

end Usual

/-! ### Messages -/

lemma mem_integers_set {params : Params} {name : String} {v : Value} {n : Int}
    (h : n ∈ Params.integers (params.set name v)) :
    n ∈ Params.integers params ∨ n ∈ v.integers := by
  induction params with
  | nil => exact .inr (by simpa [Params.integers, Record.set] using h)
  | cons e params ih =>
    simp only [Params.integers, Record.set] at h ih ⊢
    split_ifs at h
    · rw [List.flatMap_cons, List.mem_append] at h
      rw [List.flatMap_cons, List.mem_append]
      exact h.symm.imp_left .inr
    · rw [List.flatMap_cons, List.mem_append] at h
      rw [List.flatMap_cons, List.mem_append, or_assoc]
      exact h.imp_right ih

lemma mem_integers_overlay {params upper : Params} {n : Int}
    (h : n ∈ Params.integers (params.overlay upper)) :
    n ∈ Params.integers params ∨ n ∈ Params.integers upper := by
  induction upper generalizing params with
  | nil => exact .inl h
  | cons e upper ih =>
    have hupper : Params.integers (e :: upper) = e.2.integers ++ Params.integers upper := rfl
    rw [hupper, List.mem_append, ← or_assoc]
    exact (ih h).imp_left mem_integers_set

mutual

/-- The message of a rejection can be written if the parameters of all that is inside can. -/
lemma isShort_integers (why : Rejection)
    (h : ∀ r ∈ why.nodes, ∀ n ∈ Params.integers r.params, Integer.isShort n) :
    ∀ n ∈ why.integers, Integer.isShort n := by
  match why with
  | ⟨code, value, params, validator, causes⟩ =>
    rw [nodes_eq, List.forall_mem_cons] at h
    obtain ⟨hown, hcauses⟩ := h
    have hparams : ∀ n ∈ Params.integers (Record.overlay [("value", .text value)] params),
        Integer.isShort n := by
      intro n hn
      obtain hvalue | hn := mem_integers_overlay hn
      · simp [Params.integers] at hvalue
      · exact hown n hn
    intro n hn
    rw [integers] at hn
    split_ifs at hn
    · obtain hn | hn := List.mem_append.mp hn
      · exact isShort_integersAll causes hcauses n hn
      · obtain hn | htext := mem_integers_set hn
        · exact hparams n hn
        · simp at htext
    · exact hparams n hn

lemma isShort_integersAll (whys : List Rejection)
    (h : ∀ r ∈ nodesAll whys, ∀ n ∈ Params.integers r.params, Integer.isShort n) :
    ∀ n ∈ integersAll whys, Integer.isShort n := by
  match whys with
  | [] => exact nofun
  | why :: whys =>
    rw [nodesAll, List.forall_mem_append] at h
    rw [integersAll, List.forall_mem_append]
    exact ⟨isShort_integers why h.1, isShort_integersAll whys h.2⟩

end

lemma render_english {why : Rejection} (h : ∀ r ∈ why.nodes, r.Usual) :
    why.render .english = .ok (why.filled 50 Code.englishParts) := by
  have hparts : Catalog.english.Writes Code.englishParts := by
    intro c
    rw [Catalog.template_english]
    exact c.writes_englishParts
  have hshort : why.integers.all Integer.isShort :=
    List.all_eq_true.mpr (isShort_integers why fun r hr => List.all_eq_true.mp (h r hr).short)
  rw [render_of_writes rfl hparts why, Integer.writing_of_short hshort]

/-! ### Documents -/

mutual

/-- A rejection has a document if everything inside of it has a message. -/
lemma exists_document {cat : Catalog} (why : Rejection)
    (h : ∀ r ∈ why.nodes, ∃ message, r.render cat = .ok message) :
    ∃ fields, why.document cat = .ok fields := by
  match why with
  | ⟨code, value, params, validator, causes⟩ =>
    rw [nodes_eq, List.forall_mem_cons] at h
    obtain ⟨⟨message, hmessage⟩, hcauses⟩ := h
    obtain ⟨inner, hinner⟩ := exists_documents causes hcauses
    rw [document, hmessage, hinner]
    exact ⟨_, rfl⟩

lemma exists_documents {cat : Catalog} (whys : List Rejection)
    (h : ∀ r ∈ nodesAll whys, ∃ message, r.render cat = .ok message) :
    ∃ inner, documents cat whys = .ok inner := by
  match whys with
  | [] => exact ⟨[], rfl⟩
  | why :: whys =>
    rw [nodesAll, List.forall_mem_append] at h
    obtain ⟨fields, hfields⟩ := exists_document why h.1
    obtain ⟨inner, hinner⟩ := exists_documents whys h.2
    rw [documents, hfields, hinner]
    exact ⟨_, rfl⟩

end

/-- The parts of a rejection, then its parameters, then the documents of its causes. -/
def entries (r : Rejection) (message : String) (inner : List Json) : Record Json :=
  [("code", .text r.code.name), ("key", .text r.code.key), ("validator", .text r.validator),
    ("value", .text r.value), ("message", .text message)] ++
  (r.params.mapValues Json.ofValue ++
    if r.causes = [] then [] else [("sub_failures", .array inner)])

lemma names_entries (r : Rejection) (message : String) (inner : List Json) :
    (r.entries message inner).names =
      ["code", "key", "validator", "value", "message"] ++
        (r.params.names ++ if r.causes = [] then [] else ["sub_failures"]) := by
  rw [entries, Record.names_append, Record.names_append, Record.names_mapValues]
  split_ifs <;> rfl

namespace Usual

variable {cat : Catalog} {r : Rejection} (h : r.Usual) {message : String} {inner : List Json}

include h

/-- No two entries of a document have the same name. -/
lemma nodup_names_entries : (r.entries message inner).names.Nodup := by
  rw [names_entries, List.nodup_append']
  have hhead : ∀ name ∈ ["code", "key", "validator", "value", "message"], name ∈ reservedNames := by
    decide
  refine ⟨by decide, ?_, ?_⟩
  · rw [List.nodup_append']
    refine ⟨h.nodup, by split_ifs <;> decide, ?_⟩
    intro name hname hcauses
    obtain rfl : name = "sub_failures" := by
      split_ifs at hcauses
      · cases hcauses
      · exact List.mem_singleton.mp hcauses
    exact h.not_reserved _ hname (by decide)
  · intro name hname hrest
    obtain hparams | hcauses := List.mem_append.mp hrest
    · exact h.not_reserved _ hparams (hhead _ hname)
    · split_ifs at hcauses
      · cases hcauses
      · rw [List.mem_singleton.mp hcauses] at hname
        exact absurd hname (by decide)

/-- No entry of a document is named like an entry that is put before them. -/
lemma not_mem_names_entries {name : String} (hname : name ∈ ["valid", "input"]) :
    name ∉ (r.entries message inner).names := by
  have hreserved : ∀ n ∈ ["valid", "input"], n ∈ reservedNames ∧
      n ∉ ["code", "key", "validator", "value", "message"] ∧ n ∉ ["sub_failures"] := by
    decide
  obtain ⟨hparams, hhead, hcauses⟩ := hreserved name hname
  rw [names_entries, List.mem_append, List.mem_append]
  rintro (hmem | hmem | hmem)
  · exact hhead hmem
  · exact h.not_reserved _ hmem hparams
  · split_ifs at hmem
    · cases hmem
    · exact hcauses hmem

/-- No two entries of an object that is printed for a rejected value have the same name. -/
lemma nodup_names_object : ("input" :: "valid" :: (r.entries message inner).names).Nodup := by
  have hinput : "input" ∉ (r.entries message inner).names := h.not_mem_names_entries (by decide)
  have hvalid : "valid" ∉ (r.entries message inner).names := h.not_mem_names_entries (by decide)
  rw [List.nodup_cons, List.nodup_cons, List.mem_cons, not_or]
  exact ⟨⟨by decide, hinput⟩, hvalid, h.nodup_names_entries⟩

/-- A document has the parts of the rejection, its parameters and its causes. -/
lemma document_eq (hmessage : r.render cat = .ok message)
    (hinner : documents cat r.causes = .ok inner) :
    r.document cat = .ok (r.entries message inner) := by
  have hhead : ∀ name ∈ ["code", "key", "validator", "value", "message"], name ∈ reservedNames := by
    decide
  have hnodup := h.nodup
  have hnames := h.not_reserved
  obtain ⟨code, value, params, validator, causes⟩ := r
  rw [document, hmessage, hinner]
  dsimp only [bind, Except.bind, pure, Except.pure]
  rw [Record.overlay_of_disjoint (by simpa using hnodup)]
  · cases causes with
    | nil => simp [entries]
    | cons why whys =>
      rw [if_neg (by simp), Record.set_of_not_mem]
      · simp [entries]
      · rw [Record.names_append, Record.names_mapValues, List.mem_append, not_or]
        exact ⟨by simp [Record.names], fun hmem => hnames _ hmem (by decide)⟩
  · intro name hname hmem
    rw [Record.names_mapValues] at hname
    exact hnames name hname (hhead name hmem)

/-- The document of an outcome says first that the value is not valid. -/
lemma outcomeDocument_eq (hmessage : r.render cat = .ok message)
    (hinner : documents cat r.causes = .ok inner) :
    (Outcome.rejected r).document cat =
      .ok (("valid", .bool false) :: r.entries message inner) := by
  have hnodup : ("valid" :: (r.entries message inner).names).Nodup :=
    (List.nodup_cons.mp h.nodup_names_object).2
  rw [Outcome.document, h.document_eq hmessage hinner]
  dsimp only [bind, Except.bind, pure, Except.pure]
  rw [Record.overlay_singleton _ hnodup]

/-- The report of a rejection has the value, the validator and all parameters. -/
lemma toResult_eq (hmessage : r.render cat = .ok message) (value origin : String) :
    (Outcome.rejected r).toResult cat value origin =
      .ok (.error
        { code := r.code, message, origin
          metadata :=
            [("value", .text r.value), ("validator", .text r.validator)] ++ r.params }) := by
  have hclash : Report.clash? ["code", "value", "validator", "origin", "message"] r.params =
      none := by
    have hreserved : ∀ name ∈ ["code", "value", "validator", "origin", "message"],
        name ∈ reservedNames := by
      decide
    rw [Report.clash?, List.find?_eq_none]
    intro name hname hmem
    exact h.not_reserved name hname (hreserved name (by simpa using hmem))
  have hpresent : Report.present
      ([("value", .text r.value), ("validator", .text r.validator)] ++ r.params) =
        [("value", .text r.value), ("validator", .text r.validator)] ++ r.params := by
    rw [Report.present, List.filter_eq_self]
    intro e he
    obtain ⟨name, v⟩ := e
    cases v with
    | absent =>
      obtain he : (name, .absent) ∈ r.params := by simpa using he
      exact absurd rfl (h.present _ he)
    | _ => rfl
  rw [Outcome.toResult, hmessage]
  dsimp only [bind, Except.bind]
  rw [hclash]
  dsimp only
  rw [Report.ofValidation, hpresent]
  rfl

end Usual

/-- A rejection whose message, document and report lack nothing. -/
structure InFull (r : Rejection) (message : String) (inner : List Json) : Prop where
  fields : ∀ f ∈ Template.fieldNames r.code.english.toList,
    f = "value" ∨ (f = "reasons" ∧ r.code = .combinedFailed) ∨ f ∈ r.params.names
  not_reserved : ∀ name ∈ r.params.names, name ∉ reservedNames
  rendered : r.render .english = .ok message
  causes : documents .english r.causes = .ok inner
  document : r.document .english = .ok (r.entries message inner)
  outcome : (Outcome.rejected r).document .english =
    .ok (("valid", .bool false) :: r.entries message inner)
  report : ∀ value origin, (Outcome.rejected r).toResult .english value origin =
    .ok (.error
      { code := r.code, message, origin
        metadata := [("value", .text r.value), ("validator", .text r.validator)] ++ r.params })

/-- A rejection all of which is usual lacks nothing. -/
lemma exists_inFull {r : Rejection} (hr : ∀ x ∈ r.nodes, x.Usual) :
    ∃ message inner, r.InFull message inner := by
  have h : r.Usual := hr r (by simp [nodes_eq])
  have hcauses : ∀ cause ∈ nodesAll r.causes, ∃ message, cause.render .english = .ok message := by
    intro cause hcause
    refine ⟨_, render_english fun x hx => hr x ?_⟩
    rw [nodes_eq]
    exact List.mem_cons_of_mem _ (nodes_subset_nodesAll _ hcause hx)
  obtain ⟨inner, hinner⟩ := exists_documents r.causes hcauses
  have hmessage := render_english hr
  exact ⟨_, inner, h.fields, h.not_reserved, hmessage, hinner, h.document_eq hmessage hinner,
    h.outcomeDocument_eq hmessage hinner, h.toResult_eq hmessage⟩

end Rejection

/-! ### Errors of specs -/

/-- An error with a name of its own has what its English message names. -/
lemma SpecError.fields {e : SpecError} (h : e.isNamed) :
    ∀ f ∈ Template.fieldNames e.code.english.toList, f ∈ e.params.names := by
  have hnames : (e.code, e.params.names) ∈ usualNames := by
    cases e with
    | general => cases h
    | _ => simp [usualNames, code, params, Record.names]
  have hcategory : ∀ p ∈ usualNames, p.1.category ≠ .validation := by decide
  intro f hf
  have hmem := List.mem_append_right Rejection.usualNames hnames
  exact (e.code.fieldNames_english _ hmem rfl f hf).resolve_right fun hvalue =>
    hcategory _ hnames hvalue.1

/-! ### What is told -/

open Registry Suite in
/-- Every rejection inside of the rejection of a value is told in full in English, and so is every
error with which a spec or a list of specs is refused. -/
theorem told_in_full :
    (∀ (v : Validator) (value : String) (why : Rejection), v.Gives value (.rejected why) →
      ∀ r ∈ why.nodes, ∃ message inner, r.InFull message inner) ∧
    ∀ e : SpecError,
      (∃ spec depth, build spec depth = .error (.spec e)) ∨
        (∃ cat specs, (parseAll cat specs).result = .error (.spec e)) →
      (∀ f ∈ Template.fieldNames e.code.english.toList, f ∈ e.params.names) ∧
        ∀ origin, ∃ report, e.toReport .english origin = .ok report := by
  constructor
  · intro v value why h r hr
    exact Rejection.exists_inFull fun x hx =>
      Rejection.usual_of_mem_nodes h x (Rejection.nodes_subset why hr hx)
  · intro e he
    have hnamed : e.isNamed := by
      obtain ⟨spec, depth, hbuild⟩ | ⟨cat, specs, hparse⟩ := he
      · exact (buildAt_primary _ spec).isNamed _ hbuild
      · exact parseAll_isNamed cat specs _ hparse
    exact ⟨SpecError.fields hnamed, fun origin => SpecError.toReport_english hnamed origin⟩

open Validator in
/-- A value that is too short and has a prefix that is barred, and a spec that is too deep. -/
theorem told_in_full_nested :
    let v : Validator := any [leaf (.length .characters (some 3) none), not (leaf (.hasPrefix "a"))]
    ∃ why short : Rejection, v.Gives "a" (.rejected why) ∧ short ∈ why.nodes ∧
      short.params = [("min", .int 3)] ∧ (∃ message inner, why.InFull message inner) ∧
      (∃ message inner, short.InFull message inner) ∧
      Registry.build "email" 11 = .error (.spec (.tooDeep 10)) ∧
      ∀ origin, ∃ report, (SpecError.tooDeep 10).toReport .english origin = .ok report := by
  intro v
  let short : Rejection :=
    { code := .minLength, value := "a", params := [("min", .int 3)]
      validator := Leaf.name (.length .characters (some 3) none) }
  let barred : Rejection :=
    { code := .valueCannotBe, value := "a", validator := (not (leaf (.hasPrefix "a"))).name }
  let why : Rejection :=
    { code := .combinedFailed, value := "a", validator := v.name, causes := [short, barred] }
  have hv : v.Gives "a" (.rejected why) := rfl
  have hshort : short ∈ why.nodes := by simp [why, Rejection.nodes_eq, Rejection.nodesAll]
  have hwhy : why ∈ why.nodes := by simp [Rejection.nodes_eq]
  have hdeep : Registry.build "email" 11 = .error (.spec (.tooDeep 10)) := rfl
  have hfull := told_in_full.1 v "a" why hv
  exact ⟨why, short, hv, hshort, rfl, hfull why hwhy, hfull short hshort, hdeep,
    (told_in_full.2 _ (.inl ⟨_, _, hdeep⟩)).2⟩

end ValueSpec
