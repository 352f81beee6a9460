import ValueSpec.Proofs.Consumers
import ValueSpec.Proofs.Json.Writing

namespace ValueSpec

open Json Json.Grammar

/-! ### Bounds -/

/-- An integer or a finite number. -/
def Bound.IsFinite : Bound → Prop
  | .int _ => True
  | .real x => x.IsFinite

/-- A leaf that compares with finite numbers only. -/
def Leaf.HasFiniteBounds : Leaf → Prop
  | .range least most => (∀ b ∈ least, b.IsFinite) ∧ ∀ b ∈ most, b.IsFinite
  | _ => True

namespace Json

lemma fieldsFinite_iff {fields : List (String × Json)} :
    FieldsFinite fields ↔ ∀ e ∈ fields, e.2.IsFinite := by
  induction fields with
  | nil => simp [FieldsFinite]
  | cons e fields ih => rw [FieldsFinite, ih, List.forall_mem_cons]

lemma isFinite_ofValue_bound {b : Bound} (h : b.IsFinite) : (ofValue b.value).IsFinite := by
  cases b with
  | int n => simp [Bound.value, ofValue, IsFinite]
  | real x =>
    rw [Bound.value, ofValue]
    exact h

lemma isFinite_ofValue_texts (ss : List String) : (ofValue (.texts ss)).IsFinite := by
  rw [Value.texts, ofValue, IsFinite]
  induction ss with
  | nil => trivial
  | cons s ss ih => exact ⟨by simp [ofValue, IsFinite], ih⟩

end Json

namespace Rejection

variable {cat : Catalog}

/-- All numbers among the parameters are finite. -/
def HasFiniteParams (r : Rejection) : Prop := ∀ e ∈ r.params, (ofValue e.2).IsFinite

/-- All numbers among the parameters of a rejection, and of those inside of it, are finite. -/
def IsFinite (why : Rejection) : Prop := ∀ r ∈ why.nodes, r.HasFiniteParams

lemma fieldsFinite_entries {r : Rejection} {message : String} {inner : List Json} :
    FieldsFinite (r.entries message inner) ↔
      r.HasFiniteParams ∧ (r.causes ≠ [] → AllFinite inner) := by
  have hparams : (∀ e ∈ r.params.mapValues ofValue, e.2.IsFinite) ↔ r.HasFiniteParams :=
    List.forall_mem_map
  have hcauses : FieldsFinite (if r.causes = [] then [] else [("sub_failures", array inner)]) ↔
      (r.causes ≠ [] → AllFinite inner) := by
    split_ifs with h <;> simp [h, FieldsFinite, Json.IsFinite]
  rw [← hparams, ← hcauses, fieldsFinite_iff, fieldsFinite_iff, entries, List.forall_mem_append,
    List.forall_mem_append]
  simp [Json.IsFinite]

mutual

/-- The numbers of a document are those of the rejections inside. -/
lemma fieldsFinite_entries_iff (why : Rejection) (husual : ∀ r ∈ why.nodes, r.Usual)
    (message : String) {inner : List Json} (hinner : documents cat why.causes = .ok inner) :
    FieldsFinite (why.entries message inner) ↔ why.IsFinite := by
  match why with
  | ⟨code, value, params, validator, causes⟩ =>
    rw [nodes_eq, List.forall_mem_cons] at husual
    rw [fieldsFinite_entries, IsFinite, nodes_eq, List.forall_mem_cons]
    refine and_congr_right fun _ => ?_
    rw [allFinite_documents_iff causes husual.2 hinner]
    refine ⟨fun h r hr => h ?_ r hr, fun h _ => h⟩
    rintro rfl
    cases hr

lemma allFinite_documents_iff (whys : List Rejection) (husual : ∀ r ∈ nodesAll whys, r.Usual)
    {inner : List Json} (hinner : documents cat whys = .ok inner) :
    AllFinite inner ↔ ∀ r ∈ nodesAll whys, r.HasFiniteParams := by
  match whys with
  | [] =>
    obtain rfl := Except.ok.inj hinner
    simp [AllFinite, nodesAll]
  | why :: whys =>
    rw [nodesAll, List.forall_mem_append] at husual ⊢
    rw [documents, bind_eq_ok_iff] at hinner
    obtain ⟨fields, hfields, hinner⟩ := hinner
    obtain ⟨others, hothers, hinner⟩ := bind_eq_ok_iff.mp hinner
    obtain rfl := Except.ok.inj hinner
    obtain ⟨message, causes, hmessage, hcauses⟩ := exists_parts_of_document hfields
    have hwhy : why.Usual := husual.1 why (by simp [nodes_eq])
    obtain rfl := Except.ok.inj ((hwhy.document_eq hmessage hcauses).symm.trans hfields)
    exact and_congr (fieldsFinite_entries_iff why husual.1 message hcauses)
      (allFinite_documents_iff whys husual.2 hothers)

end

/-- The object that is printed for a rejected value. -/
lemma isFinite_object_iff {why : Rejection} (husual : ∀ r ∈ why.nodes, r.Usual)
    (value message : String) {inner : List Json} (hinner : documents cat why.causes = .ok inner) :
    (Json.object (("input", .text value) :: ("valid", .bool false) ::
      why.entries message inner)).IsFinite ↔ why.IsFinite := by
  rw [← fieldsFinite_entries_iff why husual message hinner]
  simp [Json.IsFinite, FieldsFinite]

/-- A rejection by validators with finite bounds. -/
lemma isFinite_of_leaves {v : Validator} {value : String} {why : Rejection}
    (hleaves : ∀ l ∈ v.leaves, l.HasFiniteBounds) (h : v.Gives value (.rejected why)) :
    why.IsFinite := by
  refine Validator.forall_nodes_of_leaves ?_ ?_ ?_ h
  · intro l hl _ code params hcomplaint
    have hbounds := hleaves l hl
    cases Leaf.complains_complaint? hcomplaint _ rfl with
    | between =>
      have hlo := isFinite_ofValue_bound (hbounds.1 _ rfl)
      have hhi := isFinite_ofValue_bound (hbounds.2 _ rfl)
      exact List.forall_mem_cons.mpr ⟨hlo, List.forall_mem_singleton.mpr hhi⟩
    | atLeast => exact List.forall_mem_singleton.mpr (isFinite_ofValue_bound (hbounds.1 _ rfl))
    | atMost => exact List.forall_mem_singleton.mpr (isFinite_ofValue_bound (hbounds.2 _ rfl))
    | _ => simp [HasFiniteParams, ofValue, Json.IsFinite, isFinite_ofValue_texts]
  · exact fun _ _ _ => List.forall_mem_nil _
  · exact fun _ => List.forall_mem_nil _

end Rejection

namespace Command

variable {cat : Catalog} {vs : List Validator} {value line : String}

/-! ### One line -/

/-- A line is the object of a value and of what comes of it, unless it is no document at all. -/
inductive Line (cat : Catalog) (vs : List Validator) (value line : String) : Prop
  | accepted : (checkAll value vs).result = .ok .accepted →
      line.toList ∈ document (.object [("input", .text value), ("valid", .bool true)]) →
      Line cat vs value line
  | rejected {why : Rejection} {message : String} {inner : List Json} :
      (checkAll value vs).result = .ok (.rejected why) → why.value = value →
      why.render cat = .ok message → Rejection.documents cat why.causes = .ok inner →
      ("input" :: "valid" :: (why.entries message inner).names).Nodup →
      (why.IsFinite → line.toList ∈ document (.object
        (("input", .text value) :: ("valid", .bool false) ::
          fieldTrees (why.entries message inner)))) →
      ((∃ t, line.toList ∈ document t) → why.IsFinite) →
      Line cat vs value line

lemma value_of_checkAll {why : Rejection} (h : (checkAll value vs).result = .ok (.rejected why)) :
    why.value = value := by
  rw [checkAll_eq_run] at h
  have hnodes : ∀ r ∈ why.nodes, r.value = value :=
    Validator.forall_nodes (fun _ _ _ _ _ => rfl) (fun _ _ _ => rfl) (fun _ => rfl) h
  exact hnodes why (by simp [Rejection.nodes_eq])

/-- The line of a rejected value is the written form of its document. -/
lemma exists_of_outcomeLine_rejected {why : Rejection} (husual : why.Usual)
    (h : outcomeLine cat true value (.rejected why) = .ok line) :
    ∃ message inner, why.render cat = .ok message ∧
      Rejection.documents cat why.causes = .ok inner ∧
      line = (Json.object (("input", .text value) :: ("valid", .bool false) ::
        why.entries message inner)).write := by
  rw [outcomeLine, if_pos rfl] at h
  obtain ⟨fields, hfields, hline⟩ := bind_eq_ok_iff.mp h
  obtain ⟨own, hown, -⟩ := bind_eq_ok_iff.mp hfields
  obtain ⟨message, inner, hmessage, hinner⟩ := Rejection.exists_parts_of_document hown
  obtain rfl := Except.ok.inj ((husual.outcomeDocument_eq hmessage hinner).symm.trans hfields)
  refine ⟨message, inner, hmessage, hinner, ?_⟩
  rw [Record.overlay_singleton _ husual.nodup_names_object] at hline
  exact (Except.ok.inj hline).symm

lemma usual_of_checkAll {why : Rejection} (h : (checkAll value vs).result = .ok (.rejected why)) :
    ∀ r ∈ why.nodes, r.Usual := by
  rw [checkAll_eq_run] at h
  exact Rejection.usual_of_mem_nodes h

/-- The line of a rejected value is a document exactly if all numbers are finite. -/
lemma exists_document_iff {why : Rejection}
    (h : (checkAll value vs).result = .ok (.rejected why))
    (hline : outcomeLine cat true value (.rejected why) = .ok line) :
    (∃ t, line.toList ∈ document t) ↔ why.IsFinite := by
  have husual := usual_of_checkAll h
  obtain ⟨message, inner, -, hinner, rfl⟩ :=
    exists_of_outcomeLine_rejected (husual why (by simp [Rejection.nodes_eq])) hline
  rw [exists_write_mem_document_iff, Rejection.isFinite_object_iff husual value message hinner]

lemma line_of_outcomeLine {o : Outcome} (ho : (checkAll value vs).result = .ok o)
    (hline : outcomeLine cat true value o = .ok line) :
    line.toList.all isVisible ∧ Line cat vs value line := by
  cases o with
  | accepted =>
    obtain rfl := Except.ok.inj hline
    have hfinite : (Json.object [("input", .text value), ("valid", .bool true)]).IsFinite :=
      ⟨trivial, trivial, trivial⟩
    exact ⟨(writes_write _).visible, .accepted ho (write_mem_document hfinite)⟩
  | rejected why =>
    have hiff := exists_document_iff ho hline
    have husual := usual_of_checkAll ho
    have hwhy : why.Usual := husual why (by simp [Rejection.nodes_eq])
    obtain ⟨message, inner, hmessage, hinner, rfl⟩ := exists_of_outcomeLine_rejected hwhy hline
    refine ⟨(writes_write _).visible, .rejected ho (value_of_checkAll ho) hmessage hinner
      hwhy.nodup_names_object (fun h => ?_) hiff.mp⟩
    exact write_mem_document ((Rejection.isFinite_object_iff husual value message hinner).mpr h)

lemma Line.exists_document (h : Line cat vs value line)
    (hbounds : ∀ v ∈ vs, ∀ l ∈ v.leaves, l.HasFiniteBounds) : ∃ t, line.toList ∈ document t := by
  cases h with
  | accepted _ hline => exact ⟨_, hline⟩
  | rejected ho _ _ _ _ hline _ =>
    rw [checkAll_eq_run] at ho
    have hleaves : ∀ l ∈ (Validator.all vs).leaves, l.HasFiniteBounds := by
      intro l hl
      obtain ⟨v, hv, hl⟩ := Validator.mem_leavesAll.mp hl
      exact hbounds v hv l hl
    exact ⟨_, hline (Rejection.isFinite_of_leaves hleaves ho)⟩

/-! ### All lines -/

variable {spec : String} {values : List String}

lemma lines_of_checkValues {r : List String × Nat}
    (h : checkValues cat true vs values = .ok r) :
    List.Forall₂ (fun value line => line.toList.all isVisible ∧ Line cat vs value line)
      values r.1 := by
  induction values generalizing r with
  | nil =>
    obtain rfl := Except.ok.inj h
    exact .nil
  | cons value values ih =>
    rw [checkValues, bind_eq_ok_iff] at h
    obtain ⟨o, ho, h⟩ := h
    obtain ⟨line, hline, h⟩ := bind_eq_ok_iff.mp h
    obtain ⟨rest, hrest, h⟩ := bind_eq_ok_iff.mp h
    obtain rfl := Except.ok.inj h
    exact .cons (line_of_outcomeLine ho hline) (ih hrest)

/-- What a check prints for machines, unless it refuses the specs and prints nothing: a line for
each value, which is the object of the value and of what comes of it whenever it is a document, and
it is one unless a violated bound is infinite or no number. Where all bounds are finite, all lines
are documents. -/
theorem check_lines {o : Output} (h : ((check spec values true).perform cat).result = .ok o) :
    (∃ e message, (Suite.parseList cat spec).result = .error (.spec e) ∧ e.text cat = .ok message ∧
      o = { status := Output.refusedStatus, err := [badLine message] }) ∨
    ∃ vs, (Suite.parseList cat spec).result = .ok vs ∧ o.err = [] ∧
      List.Forall₂ (fun value line => line.toList.all isVisible ∧ Line cat vs value line)
        values o.out ∧
      ((∀ v ∈ vs, ∀ l ∈ v.leaves, l.HasFiniteBounds) →
        ∀ line ∈ o.out, ∃ t, line.toList ∈ document t) := by
  rcases hparse : (Suite.parseList cat spec).result with (e | f) | vs
  · obtain ⟨-, message, hmessage⟩ := Suite.parseAll_isWorded cat _ _ hparse
    have hrefused := (withSuite_of_error hparse hmessage).symm.trans h
    exact .inl ⟨e, message, rfl, hmessage, (Except.ok.inj hrefused).symm⟩
  · cases (withSuite_of_fault hparse).symm.trans h
  · rw [check_result hparse, bind_eq_ok_iff] at h
    obtain ⟨r, hr, h⟩ := h
    obtain rfl := Except.ok.inj h
    have hlines := lines_of_checkValues hr
    refine .inr ⟨vs, rfl, rfl, hlines, ?_⟩
    intro hbounds line hline
    obtain ⟨value, -, -, hvalue⟩ := Validator.exists_of_forall₂ hlines hline
    exact hvalue.exists_document hbounds

/-- An address and a letter that is no ASCII character. -/
theorem check_lines_email : ∃ o,
    ((check "email" ["a@b.co", "é"] true).perform .english).result = .ok o ∧
      List.Forall₂ (fun value line =>
          line.toList.all isVisible ∧ Line .english [.leaf .email] value line)
        ["a@b.co", "é"] o.out ∧
      ∀ line ∈ o.out, ∃ t, line.toList ∈ document t := by
  have hparse : (Suite.parseList .english "email").result = .ok [.leaf .email] :=
    (Suite.parseAll_ok_iff .english).mpr rfl
  have hgives : (Validator.leaf .email).Gives "é"
      (.rejected { code := .invalidEmail, value := "é", validator := "email" }) := rfl
  have hvalues : ∀ value ∈ ["a@b.co", "é"], ∃ m, Judged .english [.leaf .email] value m :=
    List.forall_mem_cons.mpr ⟨⟨none, .accepted rfl⟩, List.forall_mem_singleton.mpr
      ⟨_, .rejected rfl (Rejection.render_english (Rejection.usual_of_mem_nodes hgives))⟩⟩
  obtain ⟨lines, failed, hlines, -⟩ := checkValues_of_judged hvalues true
  have hcheck : ((check "email" ["a@b.co", "é"] true).perform .english).result = _ :=
    check_result hparse
  rw [hlines] at hcheck
  obtain ⟨e, message, he, -⟩ | ⟨vs, hvs, -, hforall, hall⟩ := check_lines hcheck
  · cases hparse.symm.trans he
  · obtain rfl := Except.ok.inj (hparse.symm.trans hvs)
    refine ⟨_, hcheck, hforall, hall ?_⟩
    simp [Validator.leaves, Leaf.HasFiniteBounds]

lemma parseList_min_infinite : (Suite.parseList cat "min(inf)").result =
    .ok [.leaf (.range (some (.real (.infinite false))) none)] := by
  have hbuild : Registry.build "min(inf)" 0 =
      .ok (.leaf (.range (some (.real (.infinite false))) none)) := by
    have hlookup : Registry.lookup? "min" =
        some { name := "min"
               form := .one fun name a =>
                 return .leaf (.range (some (← Registry.number name a)) none) } :=
      Registry.lookup?_of_isLower (by decide)
    have hargs : (splitArguments "inf").map unescapeValue = ["inf"] := by decide +kernel
    have hread : Binary64.read? "inf" = some (.infinite false) := by decide +kernel
    have hone := Registry.build_one hlookup (by decide : (0 : Int) ≤ 10) rfl hargs
    calc Registry.build "min(inf)" 0
      _ = Registry.number "min" "inf" >>= fun b => pure (.leaf (.range (some b) none)) := hone
      _ = .ok (.leaf (.range (some (.real (.infinite false))) none)) := by
        rw [Registry.number, hread]
        rfl
  have hspecs : (splitSpecs "min(inf)").filter (!Text.isBlankText ·) = ["min(inf)"] := by
    decide +kernel
  rw [Suite.parseList, Suite.parseAll_ok_iff, hspecs, List.mapM_cons, hbuild]
  rfl

/-- A value below an infinite bound has a line that is no document. -/
theorem not_check_lines : ∃ line,
    ((check "min(inf)" ["1"] true).perform .english).result =
      .ok { status := Output.rejectedStatus, out := [line] } ∧
    ∀ t, line.toList ∉ document t := by
  let l : Leaf := .range (some (.real (.infinite false))) none
  let why : Rejection :=
    { code := .valueAtLeast, value := "1", params := [("min", .real (.infinite false))]
      validator := l.name }
  have hleaf : (Validator.leaf l).Gives "1" (.rejected why) := by
    have hread : Binary64.read? "1" = some (.finite false 4503599627370496 (-52)) := by
      decide +kernel
    refine Validator.gives_leaf_rejected_iff.mpr ⟨rfl, _, _, ?_, rfl⟩
    rw [Leaf.complaint?, hread]
    rfl
  have ho : (checkAll "1" [.leaf l]).result = .ok (.rejected why) := by
    rw [checkAll_eq_run]
    exact Validator.gives_all_rejected_iff.mpr ⟨[], .leaf l, [], rfl, List.forall_mem_nil _, hleaf⟩
  have hexists : ∃ line, outcomeLine .english true "1" (.rejected why) = .ok line ∧ _ :=
    outcomeLine_rejected ho (Rejection.render_english (Rejection.usual_of_mem_nodes hleaf))
  obtain ⟨line, hline, -⟩ := hexists
  refine ⟨line, ?_, fun t ht => ?_⟩
  · rw [check_result parseList_min_infinite, checkValues, ho]
    dsimp only [bind, Except.bind]
    rw [hline]
    rfl
  · have hfinite := (exists_document_iff ho hline).mp ⟨t, ht⟩
    have hbound : (ofValue (.real (.infinite false))).IsFinite :=
      hfinite why (by simp [Rejection.nodes_eq]) ("min", .real (.infinite false)) (by simp [why])
    rw [ofValue] at hbound
    exact hbound

end Command

end ValueSpec
