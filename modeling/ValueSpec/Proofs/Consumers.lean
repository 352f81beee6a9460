import ValueSpec.Command
import ValueSpec.Field
import ValueSpec.Proofs.Documents

/-!
# Consumers of specs

A text that lists specs is read by commands, by the marks of fields, and by callers that want a
result. They all refuse the same texts for the same error. With a text that they take they come to
the same conclusion about every value, and give the same message with it. Looking for mistakes in
several texts finds each one that is refused.
-/

namespace ValueSpec

/-! ### Rejections that have a message -/

namespace Rejection

variable {cat : Catalog}

/-- Only a rejection by alternatives has causes. -/
lemma combined_of_mem_nodes {v : Validator} {value : String} {why : Rejection}
    (h : v.Gives value (.rejected why)) :
    ∀ r ∈ why.nodes, r.causes ≠ [] → r.code = .combinedFailed := by
  refine Validator.forall_nodes ?_ ?_ ?_ h
  · intro l _ code params _ hcauses
    exact absurd rfl hcauses
  · intro vs whys _ _
    rfl
  · intro v hcauses
    exact absurd rfl hcauses

mutual

/-- The message of a rejection by alternatives takes those of its causes. No other rejection has
causes, whose messages could be missing. -/
lemma exists_render_of_mem_nodes (why : Rejection)
    (hnodes : ∀ r ∈ why.nodes, r.causes ≠ [] → r.code = .combinedFailed) {message : String}
    (hmessage : why.render cat = .ok message) :
    ∀ r ∈ why.nodes, ∃ message, r.render cat = .ok message := by
  match why with
  | ⟨code, value, params, validator, causes⟩ =>
    rw [nodes_eq, List.forall_mem_cons] at hnodes ⊢
    refine ⟨⟨message, hmessage⟩, ?_⟩
    by_cases hcauses : causes = []
    · subst hcauses
      exact nofun
    · obtain rfl : code = .combinedFailed := hnodes.1 hcauses
      obtain ⟨reasons, hreasons, -⟩ := bind_eq_ok_iff.mp (by rwa [render, if_pos rfl] at hmessage)
      exact exists_render_of_mem_nodesAll causes hnodes.2 hreasons

lemma exists_render_of_mem_nodesAll (whys : List Rejection)
    (hnodes : ∀ r ∈ nodesAll whys, r.causes ≠ [] → r.code = .combinedFailed)
    {messages : List String} (hmessages : renderAll cat whys = .ok messages) :
    ∀ r ∈ nodesAll whys, ∃ message, r.render cat = .ok message := by
  match whys with
  | [] => exact nofun
  | why :: whys =>
    rw [nodesAll, List.forall_mem_append] at hnodes ⊢
    rw [renderAll, bind_eq_ok_iff] at hmessages
    obtain ⟨message, hmessage, hmessages⟩ := hmessages
    obtain ⟨others, hothers, -⟩ := bind_eq_ok_iff.mp hmessages
    exact ⟨exists_render_of_mem_nodes why hnodes.1 hmessage,
      exists_render_of_mem_nodesAll whys hnodes.2 hothers⟩

end

/-- What has a document has a message, and its causes have documents. -/
lemma exists_parts_of_document {why : Rejection} {fields : Record Json}
    (h : why.document cat = .ok fields) : ∃ message inner, why.render cat = .ok message ∧
      documents cat why.causes = .ok inner := by
  obtain ⟨code, value, params, validator, causes⟩ := why
  rw [document, bind_eq_ok_iff] at h
  obtain ⟨message, hmessage, h⟩ := h
  obtain ⟨inner, hinner, -⟩ := bind_eq_ok_iff.mp h
  exact ⟨message, inner, hmessage, hinner⟩

end Rejection

/-! ### Lists of results -/

lemma collect_ok_cons {ε α : Type} (a : α) (results : List (Except ε α)) :
    collect (.ok a :: results) = (collect results).map (a :: ·) := by
  unfold collect
  dsimp only
  rw [List.filterMap_cons_none (by rfl), List.filterMap_cons_some (by rfl)]
  split <;> rfl

lemma collect_error_cons {ε α : Type} (e : ε) (results : List (Except ε α)) :
    collect (.error e :: results) =
      match collect results with
      | .ok _ => .error [e]
      | .error es => .error (e :: es) := by
  unfold collect
  dsimp only
  rw [List.filterMap_cons_some (by rfl)]
  generalize List.filterMap _ results = es
  cases es <;> rfl

namespace Command

variable {cat : Catalog} {spec value : String} {vs : List Validator} {json : Bool}

/-! ### One value -/

/-- What comes of a value: nothing if several validators accept it, and otherwise the message of its
rejection. -/
inductive Judged (cat : Catalog) (vs : List Validator) (value : String) : Option String → Prop
  | accepted : (checkAll value vs).result = .ok .accepted → Judged cat vs value none
  | rejected {why : Rejection} {message : String} :
      (checkAll value vs).result = .ok (.rejected why) → why.render cat = .ok message →
      Judged cat vs value (some message)

/-- A line tells what comes of a value, in words or as an object. -/
inductive Tells (value : String) : Bool → Option String → String → Prop
  | good : Tells value false none (goodLine (Text.quote value ++ ": ok"))
  | bad (message : String) :
      Tells value false (some message) (badLine (Text.quote value ++ ": " ++ message))
  | object {fields : Record Json} {message? : Option String} : fields.names.Nodup →
      fields.get? "input" = some (.text value) →
      fields.get? "valid" = some (.bool message?.isNone) →
      fields.get? "message" = message?.map .text →
      Tells value true message? (Json.object fields).write

/-- A value that has a line has been judged. -/
lemma exists_judged {o : Outcome} {line : String} (ho : (checkAll value vs).result = .ok o)
    (hline : outcomeLine cat json value o = .ok line) : ∃ m, Judged cat vs value m := by
  cases o with
  | accepted => exact ⟨none, .accepted ho⟩
  | rejected why =>
    rw [outcomeLine] at hline
    have hmessage : ∃ message, why.render cat = .ok message := by
      cases json with
      | false =>
        obtain ⟨message, hmessage, -⟩ := bind_eq_ok_iff.mp hline
        exact ⟨message, hmessage⟩
      | true =>
        obtain ⟨fields, hfields, -⟩ := bind_eq_ok_iff.mp hline
        obtain ⟨own, hown, -⟩ := bind_eq_ok_iff.mp hfields
        obtain ⟨message, inner, hmessage, -⟩ := Rejection.exists_parts_of_document hown
        exact ⟨message, hmessage⟩
    obtain ⟨message, hmessage⟩ := hmessage
    exact ⟨some message, .rejected ho hmessage⟩

lemma outcomeLine_accepted :
    ∃ line, outcomeLine cat json value .accepted = .ok line ∧ Tells value json none line := by
  cases json with
  | false => exact ⟨_, rfl, .good⟩
  | true =>
    have hnodup : ["input", "valid"].Nodup := by decide
    exact ⟨(Json.object [("input", .text value), ("valid", .bool true)]).write, rfl,
      .object hnodup rfl rfl rfl⟩

/-- A rejected value with a message has a line, be it in words or as an object. -/
lemma outcomeLine_rejected {why : Rejection} {message : String}
    (h : (checkAll value vs).result = .ok (.rejected why))
    (hmessage : why.render cat = .ok message) :
    ∃ line, outcomeLine cat json value (.rejected why) = .ok line ∧
      Tells value json (some message) line := by
  have hall : (Validator.all vs).Gives value (.rejected why) := by
    rwa [checkAll_eq_run] at h
  have husual : why.Usual := Rejection.usual_of_mem_nodes hall why <| by
    rw [Rejection.nodes_eq]
    exact List.mem_cons_self
  cases json with
  | false =>
    refine ⟨_, ?_, .bad message⟩
    rw [outcomeLine, hmessage]
    rfl
  | true =>
    have hnodes := Rejection.exists_render_of_mem_nodes why (Rejection.combined_of_mem_nodes hall)
      hmessage
    rw [Rejection.nodes_eq, List.forall_mem_cons] at hnodes
    obtain ⟨inner, hinner⟩ := Rejection.exists_documents why.causes hnodes.2
    have hnodup : ("input" :: "valid" :: (why.entries message inner).names).Nodup :=
      husual.nodup_names_object
    refine ⟨(Json.object (("input", .text value) :: ("valid", .bool false) ::
      why.entries message inner)).write, ?_, .object hnodup rfl rfl rfl⟩
    rw [outcomeLine, husual.outcomeDocument_eq hmessage hinner]
    dsimp only [bind, Except.bind, pure, Except.pure]
    rw [if_pos rfl, Record.overlay_singleton _ hnodup]

/-- What was judged has an outcome and a line. -/
lemma Judged.exists_line {m : Option String} (h : Judged cat vs value m) (json : Bool) :
    ∃ o line, (checkAll value vs).result = .ok o ∧ o.isAccepted = m.isNone ∧
      outcomeLine cat json value o = .ok line ∧ Tells value json m line := by
  cases h with
  | accepted ho =>
    obtain ⟨line, hline, htells⟩ := outcomeLine_accepted
    exact ⟨_, line, ho, rfl, hline, htells⟩
  | rejected ho hmessage =>
    obtain ⟨line, hline, htells⟩ := outcomeLine_rejected ho hmessage
    exact ⟨_, line, ho, rfl, hline, htells⟩

/-! ### Several values -/

variable {values : List String}

lemma exists_judged_of_checkValues {r : List String × Nat}
    (h : checkValues cat json vs values = .ok r) :
    ∀ value ∈ values, ∃ m, Judged cat vs value m := by
  induction values generalizing r with
  | nil => simp
  | cons value values ih =>
    rw [checkValues, bind_eq_ok_iff] at h
    obtain ⟨o, ho, h⟩ := h
    obtain ⟨line, hline, h⟩ := bind_eq_ok_iff.mp h
    obtain ⟨rest, hrest, -⟩ := bind_eq_ok_iff.mp h
    exact List.forall_mem_cons.mpr ⟨exists_judged ho hline, ih hrest⟩

/-- One value more adds its line, and counts if it is rejected. -/
lemma checkValues_cons {m : Option String} (h : Judged cat vs value m) (json : Bool) :
    ∃ line, Tells value json m line ∧
      ∀ {values lines failed}, checkValues cat json vs values = .ok (lines, failed) →
        checkValues cat json vs (value :: values) =
          .ok (line :: lines, if m.isNone then failed else failed + 1) := by
  obtain ⟨o, line, ho, haccepted, hline, htells⟩ := h.exists_line json
  refine ⟨line, htells, fun hvalues => ?_⟩
  rw [checkValues, ho]
  dsimp only [bind, Except.bind]
  rw [hline, hvalues, ← haccepted]
  rfl

/-- Values that have all been judged have a line each, in order. -/
lemma checkValues_of_judged (h : ∀ value ∈ values, ∃ m, Judged cat vs value m) (json : Bool) :
    ∃ lines failed, checkValues cat json vs values = .ok (lines, failed) ∧
      List.Forall₂ (fun value line => ∃ m, Judged cat vs value m ∧ Tells value json m line)
        values lines ∧
      (failed = 0 ∧ (∀ value ∈ values, Judged cat vs value none) ∨
        failed ≠ 0 ∧ ∃ value ∈ values, ∃ message, Judged cat vs value (some message)) := by
  induction values with
  | nil => exact ⟨[], 0, rfl, .nil, .inl ⟨rfl, by simp⟩⟩
  | cons value values ih =>
    rw [List.forall_mem_cons] at h
    obtain ⟨⟨m, hm⟩, h⟩ := h
    obtain ⟨line, htells, hcons⟩ := checkValues_cons hm json
    obtain ⟨lines, failed, hlines, hforall, hfailed⟩ := ih h
    refine ⟨_, _, hcons hlines, .cons ⟨m, hm, htells⟩ hforall, ?_⟩
    cases m with
    | some message =>
      right
      exact ⟨by simp, value, by simp, message, hm⟩
    | none =>
      simp only [List.forall_mem_cons, List.exists_mem_cons_iff]
      exact hfailed.imp (fun h => ⟨h.1, hm, h.2⟩) fun h => ⟨h.1, .inr h.2⟩

/-! ### One text -/

/-- A text of specs as a suite or as the message of its error. -/
lemma suite_result :
    (suite cat spec).result =
      match (Suite.parseList cat spec).result with
      | .ok vs => .ok (.ok vs)
      | .error (.fault f) => .error f
      | .error (.spec e) => (e.text cat).map .error := by
  rw [suite]
  rcases Suite.parseList cat spec with ⟨trace, (e | f) | vs⟩ <;> rfl

variable {go : List Validator → Course Output}

lemma withSuite_of_ok (h : (Suite.parseList cat spec).result = .ok vs) :
    (withSuite cat spec go).result = (go vs).result := by
  rw [withSuite, Traced.result_bind, suite_result, h]
  rfl

lemma withSuite_of_error {e : SpecError} {message : String}
    (h : (Suite.parseList cat spec).result = .error (.spec e))
    (hmessage : e.text cat = .ok message) :
    (withSuite cat spec go).result =
      .ok { status := Output.refusedStatus, err := [badLine message] } := by
  rw [withSuite, Traced.result_bind, suite_result, h]
  dsimp only
  rw [hmessage]
  rfl

lemma withSuite_of_fault {f : Fault} (h : (Suite.parseList cat spec).result = .error (.fault f)) :
    (withSuite cat spec go).result = .error f := by
  rw [withSuite, Traced.result_bind, suite_result, h]
  rfl

/-- Values are checked with the suite of a text. -/
lemma check_result (h : (Suite.parseList cat spec).result = .ok vs) :
    ((check spec values json).perform cat).result =
      checkValues cat json vs values >>= fun r =>
        .ok { status := if r.2 = 0 then 0 else Output.rejectedStatus, out := r.1 } := by
  rw [perform, withSuite_of_ok h, Traced.result_bind]
  rfl

/-! ### Several texts -/

variable {specs : List String}

/-- The line of a text that is refused, among several texts that are looked at for mistakes. -/
def lintLine? (cat : Catalog) (spec : String) : Option String :=
  match (Suite.tryParse cat (splitSpecs spec)).result with
  | .ok (.error report) => some (badLine report.text)
  | _ => none

/-- What is printed of several texts: the lines of those that are refused, if there are any. -/
def lintOutput (cat : Catalog) (specs : List String) : Output :=
  let lines := specs.filterMap (lintLine? cat)
  if lines = [] then { out := [goodLine (toString specs.length ++ " spec(s) OK")] }
  else { status := Output.refusedStatus, out := lines }

lemma lintSpecs_ok_iff {results : List (Result (List Validator))} :
    (lintSpecs cat specs).result = .ok results ↔
      List.Forall₂ (fun spec r => (Suite.tryParse cat (splitSpecs spec)).result = .ok r)
        specs results := by
  induction specs generalizing results with
  | nil => simp [lintSpecs, eq_comm]
  | cons spec specs ih =>
    rw [lintSpecs, Traced.result_bind_eq_ok_iff, List.forall₂_cons_left_iff]
    constructor
    · rintro ⟨r, hr, h⟩
      obtain ⟨rest, hrest, hresults⟩ := Traced.result_bind_eq_ok_iff.mp h
      obtain rfl : r :: rest = results := by simpa using hresults
      exact ⟨r, rest, hr, ih.mp hrest, rfl⟩
    · rintro ⟨r, rest, hr, hrest, rfl⟩
      exact ⟨r, hr, Traced.result_bind_eq_ok_iff.mpr ⟨rest, ih.mpr hrest, rfl⟩⟩

/-- The reports that are collected are those of the texts that are refused. -/
lemma collect_of_tried {results : List (Result (List Validator))}
    (h : List.Forall₂ (fun spec r => (Suite.tryParse cat (splitSpecs spec)).result = .ok r)
      specs results) :
    (specs.filterMap (lintLine? cat) = [] ∧
      ∃ suites, collect results = .ok suites ∧ suites.length = specs.length) ∨
    (specs.filterMap (lintLine? cat) ≠ [] ∧
      ∃ reports, collect results = .error reports ∧
        (reports.map fun r => badLine r.text) = specs.filterMap (lintLine? cat)) := by
  induction h with
  | nil => exact .inl ⟨rfl, [], rfl, rfl⟩
  | @cons spec r specs results hr _ ih =>
    cases r with
    | ok vs =>
      have hline : lintLine? cat spec = none := by rw [lintLine?, hr]
      rw [collect_ok_cons, List.filterMap_cons_none hline]
      obtain ⟨hlines, suites, hsuites, hlength⟩ | ⟨hlines, reports, hreports, htexts⟩ := ih
      · exact .inl ⟨hlines, vs :: suites, by rw [hsuites]; rfl, by simp [hlength]⟩
      · exact .inr ⟨hlines, reports, by rw [hreports]; rfl, htexts⟩
    | error report =>
      have hline : lintLine? cat spec = some (badLine report.text) := by rw [lintLine?, hr]
      rw [collect_error_cons, List.filterMap_cons_some hline]
      right
      obtain ⟨hlines, suites, hsuites, -⟩ | ⟨-, reports, hreports, htexts⟩ := ih
      · exact ⟨List.cons_ne_nil _ _, [report], by rw [hsuites], by rw [hlines]; rfl⟩
      · exact ⟨List.cons_ne_nil _ _, report :: reports, by rw [hreports], by rw [← htexts]; rfl⟩

/-- What is printed of texts that are all taken or refused. -/
lemma lint_result_of_tried {results : List (Result (List Validator))}
    (h : List.Forall₂ (fun spec r => (Suite.tryParse cat (splitSpecs spec)).result = .ok r)
      specs results) :
    ((lint specs).perform cat).result = .ok (lintOutput cat specs) := by
  rw [perform, Traced.result_bind, lintSpecs_ok_iff.mpr h]
  dsimp only [bind, Except.bind]
  obtain ⟨hlines, suites, hsuites, hlength⟩ | ⟨hlines, reports, hreports, htexts⟩ :=
    collect_of_tried h
  · rw [hsuites, lintOutput, if_pos hlines, ← hlength]
    rfl
  · rw [hreports, lintOutput, if_neg hlines, ← htexts]
    rfl

/-- Texts are looked at for mistakes to the end if each of them is taken or refused. -/
lemma lint_result (cat : Catalog) (specs : List String) (o : Output) :
    ((lint specs).perform cat).result = .ok o ↔
      (∀ spec ∈ specs, ∃ r, (Suite.tryParse cat (splitSpecs spec)).result = .ok r) ∧
        o = lintOutput cat specs := by
  constructor
  · intro h
    obtain ⟨results, hresults, -⟩ := Traced.result_bind_eq_ok_iff.mp h
    have htried := lintSpecs_ok_iff.mp hresults
    rw [lint_result_of_tried htried, Except.ok.injEq] at h
    exact ⟨exists_forall₂_iff.mp ⟨results, htried⟩, h.symm⟩
  · rintro ⟨h, rfl⟩
    obtain ⟨results, htried⟩ := exists_forall₂_iff.mpr h
    exact lint_result_of_tried htried

/-! ### All consumers of a text -/

/-- Checked values have a line each, in order. The status says if one of them is rejected. -/
structure Checked (cat : Catalog) (vs : List Validator) (json : Bool) (values : List String)
    (o : Output) : Prop where
  out : List.Forall₂ (fun value line => ∃ m, Judged cat vs value m ∧ Tells value json m line)
    values o.out
  err : o.err = []
  status : o.status = 0 ∧ (∀ value ∈ values, Judged cat vs value none) ∨
    o.status = Output.rejectedStatus ∧
      ∃ value ∈ values, ∃ message, Judged cat vs value (some message)

/-- A text of specs is refused by all that read it, for the same error and with its message. -/
structure Refused (cat : Catalog) (spec : String) (e : SpecError) (report : Report) : Prop where
  suite : (Suite.tryParse cat (splitSpecs spec)).result = .ok (.error report)
  cause : report.cause = some e
  message : e.text cat = .ok report.message
  check : ∀ values json, ((Command.check spec values json).perform cat).result =
    .ok { status := Output.refusedStatus, err := [badLine report.message] }
  explain : ((Command.explain spec).perform cat).result =
    .ok { status := Output.refusedStatus, err := [badLine report.message] }
  lint : ((Command.lint [spec]).perform cat).result =
    .ok { status := Output.refusedStatus, out := [badLine report.text] }
  field : (Field.make cat spec).result = .error (.spec e)

/-- A text of specs is taken by all that read it. The values are checked, and a field takes one of
them unchanged or refuses it, as the check of this value alone says. -/
structure Taken (cat : Catalog) (spec : String) (values : List String) (vs : List Validator) :
    Prop where
  suite : (Suite.tryParse cat (splitSpecs spec)).result = .ok (.ok vs)
  explain : ((Command.explain spec).perform cat).result = .ok { out := Validator.trees 0 vs }
  lint : ((Command.lint [spec]).perform cat).result = .ok { out := [goodLine "1 spec(s) OK"] }
  check : ∀ json, ∃ o, ((Command.check spec values json).perform cat).result = .ok o ∧
    Checked cat vs json values o
  field : ∃ f, (Field.make cat spec).result = .ok f ∧
    ∀ value ∈ values, ∀ json, ∃ line,
      (Judged cat vs value none ∧ Tells value json none line ∧
        ((Command.check spec [value] json).perform cat).result = .ok { out := [line] } ∧
        f.check cat (.text value) = .ok (.ok (.text value))) ∨
      ∃ message, Judged cat vs value (some message) ∧ Tells value json (some message) line ∧
        ((Command.check spec [value] json).perform cat).result =
          .ok { status := Output.rejectedStatus, out := [line] } ∧
        f.check cat (.text value) = .ok (.error message)

lemma tryParse_of_ok (h : (Suite.parseList cat spec).result = .ok vs) :
    (Suite.tryParse cat (splitSpecs spec)).result = .ok (.ok vs) := by
  rw [Suite.parseList] at h
  rw [Suite.tryParse, h]
  rfl

lemma exists_refused {e : SpecError} (h : (Suite.parseList cat spec).result = .error (.spec e)) :
    ∃ report, Refused cat spec e report := by
  obtain ⟨hnamed, message, hmessage⟩ := Suite.parseAll_isWorded cat _ _ h
  obtain ⟨report, hreport, rfl, hcause⟩ :=
    SpecError.exists_toReport hnamed hmessage "parse_validators"
  have hsuite : (Suite.tryParse cat (splitSpecs spec)).result = .ok (.error report) := by
    rw [Suite.parseList] at h
    rw [Suite.tryParse, h, Suite.reported, hreport]
    rfl
  refine ⟨report, hsuite, hcause, hmessage, fun _ _ => withSuite_of_error h hmessage,
    withSuite_of_error h hmessage, ?_, ?_⟩
  · refine (lint_result cat _ _).mpr ⟨by simp [hsuite], ?_⟩
    simp [lintOutput, lintLine?, hsuite]
  · rw [Field.make, Traced.result_bind, h]
    rfl

/-- A field takes a value unchanged or refuses it with the message of the rejection. -/
lemma field_check {f : Field} {m : Option String} (h : Judged cat f.validators value m) :
    f.check cat (.text value) = .ok (match m with
      | none => .ok (.text value)
      | some message => .error message) := by
  rw [Field.check]
  cases h with
  | accepted ho =>
    rw [ho]
    rfl
  | rejected ho hmessage =>
    rw [ho]
    dsimp only [bind, Except.bind]
    rw [hmessage]
    rfl

lemma taken_of_judged (h : (Suite.parseList cat spec).result = .ok vs)
    (hvalues : ∀ value ∈ values, ∃ m, Judged cat vs value m) : Taken cat spec values vs := by
  have hsuite := tryParse_of_ok h
  refine ⟨hsuite, withSuite_of_ok h, ?_, ?_, ?_⟩
  · refine (lint_result cat _ _).mpr ⟨by simp [hsuite], ?_⟩
    have hcount : toString [spec].length ++ " spec(s) OK" = "1 spec(s) OK" := by
      rw [List.length_singleton]
      decide
    have hlines : [spec].filterMap (lintLine? cat) = [] := by simp [lintLine?, hsuite]
    rw [lintOutput, hcount, if_pos hlines]
  · intro json
    obtain ⟨lines, failed, hlines, hforall, hfailed⟩ := checkValues_of_judged hvalues json
    refine ⟨_, by rw [check_result h, hlines]; rfl, hforall, rfl, ?_⟩
    exact hfailed.imp (fun h => ⟨if_pos h.1, h.2⟩) fun h => ⟨if_neg h.1, h.2⟩
  · refine ⟨{ spec, validators := vs }, by rw [Field.make, Traced.result_bind, h]; rfl, ?_⟩
    intro value hvalue json
    obtain ⟨m, hm⟩ := hvalues value hvalue
    obtain ⟨line, htells, hcons⟩ := checkValues_cons hm json
    have hnone : checkValues cat json vs [] = .ok ([], 0) := rfl
    have hline := hcons hnone
    have hfield := field_check (f := { spec, validators := vs }) hm
    cases m with
    | none => exact ⟨line, .inl ⟨hm, htells, by rw [check_result h, hline]; rfl, hfield⟩⟩
    | some message =>
      exact ⟨line, .inr ⟨message, hm, htells, by rw [check_result h, hline]; rfl, hfield⟩⟩

/-- All that read texts of specs agree. Whenever values can be checked without a fault, be it in
words or as objects, the text of the specs is refused by all, or it is taken by all and they say the
same of the values. Looking for mistakes in several texts ends without a fault if reading each of
them does, and then it finds those that are refused. -/
theorem consumers_agree (cat : Catalog) :
    (∀ spec values, (∃ json o, ((Command.check spec values json).perform cat).result = .ok o) →
      (∃ e report, Refused cat spec e report) ∨ ∃ vs, Taken cat spec values vs) ∧
    ∀ specs o, ((Command.lint specs).perform cat).result = .ok o ↔
      (∀ spec ∈ specs, ∃ r, (Suite.tryParse cat (splitSpecs spec)).result = .ok r) ∧
        o = lintOutput cat specs := by
  refine ⟨?_, lint_result cat⟩
  rintro spec values ⟨json, o, h⟩
  rcases hparse : (Suite.parseList cat spec).result with (e | f) | vs
  · obtain ⟨report, hrefused⟩ := exists_refused hparse
    exact .inl ⟨e, report, hrefused⟩
  · have hfault := (withSuite_of_fault hparse).symm.trans h
    cases hfault
  · rw [check_result hparse] at h
    obtain ⟨r, hr, -⟩ := bind_eq_ok_iff.mp h
    exact .inr ⟨vs, taken_of_judged hparse (exists_judged_of_checkValues hr)⟩

/-- A spec that is taken, with a value that it accepts and one that it rejects. -/
theorem consumers_agree_email :
    (∃ o, ((Command.check "email" ["a@b.co", "a"] false).perform .english).result = .ok o) ∧
      Taken .english "email" ["a@b.co", "a"] [.leaf .email] := by
  have hparse : (Suite.parseList .english "email").result = .ok [.leaf .email] :=
    (Suite.parseAll_ok_iff .english).mpr rfl
  have hgives : (Validator.leaf .email).Gives "a"
      (.rejected { code := .invalidEmail, value := "a", validator := "email" }) := rfl
  have hvalues : ∀ value ∈ ["a@b.co", "a"], ∃ m, Judged .english [.leaf .email] value m :=
    List.forall_mem_cons.mpr ⟨⟨none, .accepted rfl⟩, List.forall_mem_singleton.mpr
      ⟨_, .rejected rfl (Rejection.render_english (Rejection.usual_of_mem_nodes hgives))⟩⟩
  obtain ⟨lines, failed, hlines, -⟩ := checkValues_of_judged hvalues false
  have hcheck : ∃ o, ((Command.check "email" ["a@b.co", "a"] false).perform .english).result =
      .ok o := by
    rw [check_result hparse, hlines]
    exact ⟨_, rfl⟩
  have hsuite := tryParse_of_ok hparse
  obtain ⟨e, report, hrefused⟩ | ⟨vs, htaken⟩ :=
    (consumers_agree .english).1 "email" ["a@b.co", "a"] ⟨false, hcheck⟩
  · cases hsuite.symm.trans hrefused.suite
  · obtain rfl : [.leaf .email] = vs := by simpa using hsuite.symm.trans htaken.suite
    exact ⟨hcheck, htaken⟩

end Command

end ValueSpec
