import Mathlib.Tactic.Lemma
import Mathlib.Tactic.SplitIfs
import ValueSpec.Leaf

namespace ValueSpec

namespace Leaf

/-- The codes of complaints, each with the names of its parameters. A pattern is named along with
its description only where there is one. -/
def complaintNames : List (Code × List String) :=
  [(.minLength, ["min"]), (.maxLength, ["max"]), (.exactLength, ["length"]),
   (.minByteLength, ["min"]), (.maxByteLength, ["max"]), (.exactByteLength, ["length"]),
   (.mustBeNumber, []), (.valueBetween, ["min", "max"]), (.valueAtLeast, ["min"]),
   (.valueAtMost, ["max"]), (.mustBeInteger, []), (.mustBeBoolean, []), (.invalidEmail, []),
   (.invalidUrl, ["reason"]), (.urlSchemeNotAllowed, ["schemes"]), (.urlMissingHost, []),
   (.mustBeAlphanumeric, []), (.mustBeIdentifier, []), (.mustNotContainWhitespace, []),
   (.fileExtension, ["extensions"]), (.hostnameTooLong, ["max"]), (.invalidHostname, []),
   (.invalidIp, []), (.mustBeOneOf, ["allowed"]), (.patternMatch, ["description"]),
   (.patternMatch, ["description", "pattern"]), (.customFailed, ["name", "reason"])]

/-- A complaint whose parameters go with its code and are all there. -/
structure Usual (c : Complaint) : Prop where
  names : (c.1, c.2.names) ∈ complaintNames
  present : ∀ e ∈ c.2, e.2 ≠ .absent

/-- A usual complaint is about a value, and it is not that of a combination. -/
lemma Usual.code {c : Complaint} (h : Usual c) :
    c.1.category = .validation ∧ c.1 ≠ .combinedFailed := by
  have hcodes : ∀ p ∈ complaintNames, p.1.category = .validation ∧ p.1 ≠ .combinedFailed := by
    decide
  exact hcodes _ h.names

/-- An answer that, if it is a complaint, is a usual one. -/
def AtMostUsual (answer : Option Complaint) : Prop := ∀ c ∈ answer, Usual c

/-! ### Complaints of each leaf -/

/-- What a leaf can complain of. -/
inductive Complains : Leaf → Complaint → Prop
  | tooShort {unit : LengthUnit} {lo : Int} {most : Option Int} :
      Complains (length unit (some lo) most) (unit.tooShort, [("min", .int lo)])
  | tooLong {unit : LengthUnit} {least : Option Int} {hi : Int} :
      Complains (length unit least (some hi)) (unit.tooLong, [("max", .int hi)])
  | notExact {unit : LengthUnit} {lo : Int} {most : Option Int} :
      Complains (length unit (some lo) most) (unit.notExact, [("length", .int lo)])
  | unreadable {least most : Option Bound} : Complains (range least most) (.mustBeNumber, [])
  | between {lo hi : Bound} : Complains (range (some lo) (some hi))
      (.valueBetween, [("min", lo.value), ("max", hi.value)])
  | atLeast {lo : Bound} : Complains (range (some lo) none) (.valueAtLeast, [("min", lo.value)])
  | atMost {hi : Bound} : Complains (range none (some hi)) (.valueAtMost, [("max", hi.value)])
  | whole {lo hi : Int} : Complains (intRange lo hi) (.mustBeInteger, [])
  | intBetween {lo hi : Int} : Complains (intRange lo hi)
      (.valueBetween, [("min", .int lo), ("max", .int hi)])
  | integer : Complains integer (.mustBeInteger, [])
  | number : Complains number (.mustBeNumber, [])
  | boolean : Complains boolean (.mustBeBoolean, [])
  | email : Complains email (.invalidEmail, [])
  | url {schemes : List String} (reason : String) :
      Complains (url schemes) (.invalidUrl, [("reason", .text reason)])
  | scheme {schemes : List String} :
      Complains (url schemes) (.urlSchemeNotAllowed, [("schemes", .texts schemes)])
  | host {schemes : List String} : Complains (url schemes) (.urlMissingHost, [])
  | alphanumeric : Complains alphanumeric (.mustBeAlphanumeric, [])
  | identifier : Complains identifier (.mustBeIdentifier, [])
  | noWhitespace : Complains noWhitespace (.mustNotContainWhitespace, [])
  | fileExtension {extensions : List String} : Complains (fileExtension extensions)
      (.fileExtension, [("extensions", .texts extensions)])
  | longHostname : Complains hostname (.hostnameTooLong, [("max", .int Net.maxHostname)])
  | hostname : Complains hostname (.invalidHostname, [])
  | ip : Complains ip (.invalidIp, [])
  | oneOf {allowed : List String} :
      Complains (oneOf allowed) (.mustBeOneOf, [("allowed", .texts allowed)])
  | equals {expected : String} :
      Complains (equals expected) (.mustBeOneOf, [("allowed", .texts [expected])])
  | contains {part : String} : Complains (contains part)
      (.patternMatch, [("description", .text ("must contain '" ++ part ++ "'"))])
  | hasPrefix {start : String} : Complains (hasPrefix start)
      (.patternMatch, [("description", .text ("must start with '" ++ start ++ "'"))])
  | hasSuffix {ending : String} : Complains (hasSuffix ending)
      (.patternMatch, [("description", .text ("must end with '" ++ ending ++ "'"))])
  | pattern {p : Pattern} : Complains (pattern p)
      (.patternMatch, [("description", .text p.shownAs), ("pattern", .text p.source)])
  | custom {label : String} {check : Check} (reason : String) :
      Complains (custom label (some check))
        (.customFailed, [("name", .text label), ("reason", .text reason)])

lemma forall_mem_some {P : Complaint → Prop} {c : Complaint} (h : P c) : ∀ d ∈ some c, P d := by
  rintro _ ⟨⟩
  exact h

lemma forall_mem_require {P : Complaint → Prop} {code : Code} {params : Params}
    (h : P (code, params)) (accepted : Bool) : ∀ c ∈ require accepted code params, P c := by
  unfold require
  split_ifs
  · exact nofun
  · exact forall_mem_some h

lemma complains_lengthComplaint? (unit : LengthUnit) (least most : Option Int) (n : Int) :
    ∀ c ∈ lengthComplaint? unit least most n, (length unit least most).Complains c := by
  have hmost (least : Option Int) :
      ∀ c ∈ lengthComplaint? unit none most n, (length unit least most).Complains c := by
    cases most with
    | none => exact nofun
    | some hi => exact forall_mem_require .tooLong _
  cases least with
  | none => exact hmost none
  | some lo =>
    unfold lengthComplaint?
    dsimp only
    split_ifs
    · exact forall_mem_require .notExact _
    · exact forall_mem_some .tooShort
    · exact hmost (some lo)

lemma complains_rangeComplaint? (least most : Option Bound) (x : Binary64) :
    ∀ c ∈ rangeComplaint? least most x, (range least most).Complains c := by
  rcases least with _ | lo <;> rcases most with _ | hi
  · exact nofun
  · exact forall_mem_require .atMost _
  · exact forall_mem_require .atLeast _
  · exact forall_mem_require .between _

lemma complains_urlComplaint? (schemes : List String) (value : String) :
    ∀ c ∈ urlComplaint? schemes value, (url schemes).Complains c := by
  unfold urlComplaint?
  split
  · exact forall_mem_some (.url _)
  · split_ifs
    · exact forall_mem_some .scheme
    · exact forall_mem_require .host _

lemma complains_customComplaint? {label : String} {check : Check} {reply : Reply}
    {answer : Option Complaint} (h : customComplaint? label reply = .ok answer) :
    ∀ c ∈ answer, (custom label (some check)).Complains c := by
  rcases reply with v | ⟨_ | _ | kind, text⟩
  · obtain rfl := Except.ok.inj h
    exact forall_mem_require (.custom _) _
  · obtain rfl := Except.ok.inj h
    exact forall_mem_some (.custom _)
  · obtain rfl := Except.ok.inj h
    exact forall_mem_some (.custom _)
  · cases h

/-- A leaf complains of nothing else. -/
theorem complains_complaint? {value : String} {l : Leaf} {answer : Option Complaint}
    (h : l.complaint? value = .ok answer) : ∀ c ∈ answer, l.Complains c := by
  cases l with
  | length unit lo hi =>
    rw [complaint?_length] at h
    obtain rfl := Except.ok.inj h
    exact complains_lengthComplaint? _ _ _ _
  | range lo hi =>
    obtain rfl := Except.ok.inj h
    split
    · exact forall_mem_some .unreadable
    · exact complains_rangeComplaint? _ _ _
  | intRange lo hi =>
    rw [complaint?] at h
    rcases hread : Integer.read value with f | _ | n <;> rw [hread] at h
    · cases h
    · obtain rfl := Except.ok.inj h
      exact forall_mem_some .whole
    · obtain rfl := Except.ok.inj h
      exact forall_mem_require .intBetween _
  | integer =>
    rw [complaint?] at h
    rcases hread : Integer.read value with f | n <;> rw [hread] at h
    · cases h
    · obtain rfl := Except.ok.inj h
      exact forall_mem_require .integer _
  | url schemes =>
    obtain rfl := Except.ok.inj h
    exact complains_urlComplaint? _ _
  | hostname =>
    obtain rfl := Except.ok.inj h
    split_ifs
    · exact forall_mem_some .longHostname
    · exact forall_mem_require .hostname _
  | custom label check =>
    cases check with
    | none =>
      obtain rfl := Except.ok.inj h
      simp
    | some check => exact complains_customComplaint? h
  | _ =>
    obtain rfl := Except.ok.inj h
    exact forall_mem_require (by constructor) _

/-- Leaves have usual complaints only. -/
theorem usual_complaint? {value : String} {l : Leaf} {answer : Option Complaint}
    (h : l.complaint? value = .ok answer) : AtMostUsual answer := by
  have hvalue (b : Bound) : b.value ≠ .absent := by cases b <;> nofun
  intro c hc
  cases complains_complaint? h c hc with
  | @tooShort unit =>
    refine ⟨?_, by simp⟩
    cases unit <;> simp [complaintNames, Record.names, LengthUnit.tooShort]
  | @tooLong unit =>
    refine ⟨?_, by simp⟩
    cases unit <;> simp [complaintNames, Record.names, LengthUnit.tooLong]
  | @notExact unit =>
    refine ⟨?_, by simp⟩
    cases unit <;> simp [complaintNames, Record.names, LengthUnit.notExact]
  | _ => exact ⟨by simp [complaintNames, Record.names], by simp [Value.texts, hvalue]⟩

/-- The integers in a complaint are those in the name of the leaf, or the greatest length of host
names. -/
lemma Complains.integers {l : Leaf} {c : Complaint} (h : l.Complains c) :
    ∀ n ∈ Params.integers c.2, n ∈ l.integers ∨ n = Net.maxHostname := by
  cases h <;> simp [Params.integers, Leaf.integers]
  all_goals exact fun n hn => .inl hn

/-- If the name of a leaf can be written, so can its complaints. -/
lemma isShort_complaint? {value : String} {l : Leaf} {c : Complaint} (hname : l.isNameable)
    (h : l.complaint? value = .ok (some c)) : (Params.integers c.2).all Integer.isShort := by
  rw [isNameable, List.all_eq_true] at hname
  rw [List.all_eq_true]
  intro n hn
  obtain hmem | rfl := (complains_complaint? h c rfl).integers n hn
  · exact hname n hmem
  · decide

end Leaf

end ValueSpec
