import Mathlib.Data.Set.List
import ValueSpec.Proofs.Pattern.Languages
import ValueSpec.Proofs.Ranges

namespace ValueSpec

namespace Net

/-! ### Labels -/

/-- A text between two points of a host name. -/
structure IsLabel (label : List Char) : Prop where
  nonempty : label ≠ []
  chars : ∀ c ∈ label, c.isAlphanum ∨ c = '-'
  first : label.head? ≠ some '-'
  last : label.getLast? ≠ some '-'

/-- All texts between the points of a text are labels. -/
def HasLabels (text : List Char) : Prop := ∀ label ∈ text.splitOn '.', IsLabel label

lemma IsLabel.point_not_mem {label : List Char} (h : IsLabel label) : '.' ∉ label := by
  intro hmem
  rcases h.chars '.' hmem with hchar | hchar <;> simp at hchar

/-- A text has labels if it is made of labels, by points between them. -/
lemma hasLabels_iff_intercalate {text : List Char} :
    HasLabels text ↔
      ∃ labels ≠ [], (∀ label ∈ labels, IsLabel label) ∧ text = ['.'].intercalate labels := by
  constructor
  · intro h
    exact ⟨text.splitOn '.', List.splitOn_ne_nil _ _, h, (List.intercalate_splitOn '.').symm⟩
  · rintro ⟨labels, hne, hlabels, rfl⟩
    have hpoints : ∀ label ∈ labels, '.' ∉ label := fun label hlabel =>
      (hlabels label hlabel).point_not_mem
    rwa [HasLabels, List.splitOn_intercalate '.' hpoints hne]

/-! ### The pass over a text -/

namespace HostPlace

/-- What may stand from a place on to the end of the label. -/
structure Completes (p : HostPlace) (rest : List Char) : Prop where
  nonempty : p ≠ letter → rest ≠ []
  chars : ∀ c ∈ rest, c.isAlphanum ∨ c = '-'
  first : p = start → rest.head? ≠ some '-'
  last : rest.getLast? ≠ some '-'

lemma completes_start_iff {rest : List Char} : start.Completes rest ↔ IsLabel rest :=
  ⟨fun h => ⟨h.nonempty nofun, h.chars, h.first rfl, h.last⟩,
    fun h => ⟨fun _ => h.nonempty, h.chars, fun _ => h.first, h.last⟩⟩

lemma completes_nil_iff {p : HostPlace} : p.Completes [] ↔ p = letter := by
  constructor
  · intro h
    by_contra hp
    exact h.nonempty hp rfl
  · intro hp
    exact ⟨fun hne => absurd hp hne, by simp, by simp, by simp⟩

/-- Inside of a label a letter or a digit can always come next, a hyphen not at the beginning. -/
lemma step?_eq_some_iff {p q : HostPlace} {c : Char} (hc : c ≠ '.') :
    p.step? c = some q ↔ (c.isAlphanum ∧ q = letter) ∨ (c = '-' ∧ p ≠ start ∧ q = hyphen) := by
  by_cases halnum : c.isAlphanum
  · have hhyphen : c ≠ '-' := by
      rintro rfl
      cases halnum
    simp [step?, isLabelEnd, halnum, hhyphen, eq_comm]
  · by_cases hhyphen : c = '-'
    · cases p <;> simp [step?, isLabelEnd, hhyphen, eq_comm]
    · cases p <;> simp [step?, isLabelEnd, halnum, hhyphen, hc]

lemma getLast?_cons_ne {c : Char} {rest : List Char} :
    (c :: rest).getLast? ≠ some '-' ↔ (c = '-' → rest ≠ []) ∧ rest.getLast? ≠ some '-' := by
  cases rest <;> simp

/-- What completes a label goes on from the next place. -/
lemma completes_cons_iff {p : HostPlace} {c : Char} (hc : c ≠ '.') {rest : List Char} :
    p.Completes (c :: rest) ↔ ∃ q, p.step? c = some q ∧ q.Completes rest := by
  simp only [step?_eq_some_iff hc]
  constructor
  · intro h
    obtain ⟨hend, hlast⟩ := getLast?_cons_ne.mp h.last
    obtain ⟨hchar, hchars⟩ := List.forall_mem_cons.mp h.chars
    rcases hchar with halnum | hhyphen
    · exact ⟨letter, .inl ⟨halnum, rfl⟩, nofun, hchars, nofun, hlast⟩
    · have hstart : p ≠ start := fun hp => h.first hp (by simp [hhyphen])
      exact ⟨hyphen, .inr ⟨hhyphen, hstart, rfl⟩, fun _ => hend hhyphen, hchars, nofun, hlast⟩
  · rintro ⟨q, ⟨halnum, rfl⟩ | ⟨rfl, hstart, rfl⟩, h⟩
    · have hhyphen : c ≠ '-' := by
        rintro rfl
        cases halnum
      exact ⟨nofun, List.forall_mem_cons.mpr ⟨.inl halnum, h.chars⟩, by simp [hhyphen],
        getLast?_cons_ne.mpr ⟨fun hc => absurd hc hhyphen, h.last⟩⟩
    · exact ⟨nofun, List.forall_mem_cons.mpr ⟨.inr rfl, h.chars⟩, fun hp => absurd hp hstart,
        getLast?_cons_ne.mpr ⟨fun _ => h.nonempty nofun, h.last⟩⟩

/-- The pass succeeds if the label that it is in ends well and only labels follow. -/
lemma accepts_iff {p : HostPlace} {text : List Char} :
    p.accepts text ↔ ∃ rest labels, text.splitOn '.' = rest :: labels ∧ p.Completes rest ∧
      ∀ label ∈ labels, IsLabel label := by
  induction text generalizing p with
  | nil => simp [accepts, completes_nil_iff]
  | cons c text ih =>
    obtain ⟨first, labels, hsplit⟩ := List.exists_cons_of_ne_nil (List.splitOn_ne_nil '.' text)
    have hih {q : HostPlace} : q.accepts text ↔
        q.Completes first ∧ ∀ label ∈ labels, IsLabel label := by
      rw [ih, hsplit]
      simp
    rw [accepts, List.splitOn_cons_eq_if_modifyHead, hsplit]
    by_cases hc : c = '.'
    · -- a point ends a label behind a letter or a digit, and another one begins
      have hpoint : p.step? '.' = if p = letter then some start else none := by
        cases p <;> rfl
      rw [hc, hpoint]
      cases p with
      | start => simp [completes_nil_iff]
      | letter => simp [hih, completes_nil_iff, completes_start_iff]
      | hyphen => simp [completes_nil_iff]
    · have hhead : (if c == '.' then [] :: first :: labels
          else (first :: labels).modifyHead (c :: ·)) = (c :: first) :: labels := by
        simp [hc]
      rw [hhead]
      simp only [List.cons.injEq]
      cases hstep : p.step? c <;> simp [hih, completes_cons_iff hc, hstep]

end HostPlace

/-- A host name is labels with points between them. -/
lemma isHostname_iff {text : List Char} : isHostname text ↔ HasLabels text := by
  rw [isHostname, HostPlace.accepts_iff, HasLabels]
  constructor
  · rintro ⟨first, labels, hsplit, hfirst, hlabels⟩
    rw [hsplit]
    exact List.forall_mem_cons.mpr ⟨HostPlace.completes_start_iff.mp hfirst, hlabels⟩
  · intro h
    obtain ⟨first, labels, hsplit⟩ := List.exists_cons_of_ne_nil (List.splitOn_ne_nil '.' text)
    rw [hsplit] at h
    obtain ⟨hfirst, hlabels⟩ := List.forall_mem_cons.mp h
    exact ⟨first, labels, hsplit, HostPlace.completes_start_iff.mpr hfirst, hlabels⟩

instance {text : List Char} : Decidable (HasLabels text) := decidable_of_iff _ isHostname_iff

end Net

namespace Pattern

/-! ### The pattern of a host name -/

namespace Hostname

/-- A host name without its length, as a pattern is written. -/
def text : String :=
  "([a-zA-Z0-9]|[a-zA-Z0-9][a-zA-Z0-9\\-]*[a-zA-Z0-9])" ++
    "(\\.([a-zA-Z0-9]|[a-zA-Z0-9][a-zA-Z0-9\\-]*[a-zA-Z0-9]))*"

/-- A letter or a digit. -/
def outer : Regex := .set false [.range 97 122, .range 65 90, .range 48 57] .exact

/-- A letter, a digit or a hyphen. -/
def inner : Regex := .set false [.range 97 122, .range 65 90, .range 48 57, .point 45] .exact

/-- A label, by one character or by its first one, its last one and those between them. -/
def label : Regex := .alt outer (.seq outer (.seq (.loop .greedy 0 none inner) outer))

/-- A label with a point in front. -/
def pointed : Regex := .seq (.literal false '.'.toNat .exact) (.group 3 label)

/-- A label and any number of labels with points in front. -/
def parts : List Regex := [.group 1 label, .loop .greedy 0 none (.group 2 pointed)]

lemma compile_text : (compile ("^" ++ text ++ "$")).toOption.map (·.regex) =
    some (Regex.ofList ([.anchor .textStart] ++ parts ++ [.anchor .textEnd])) := by
  decide +kernel

variable {cs : List Char}

lemma outer_language : outer.language = single Char.isAlphanum := by
  refine Regex.language_set fun c => ?_
  simp [holds_range, isAlphanum_iff_toNat]

lemma inner_language : inner.language = single fun c => c.isAlphanum || c = '-' := by
  refine Regex.language_set fun c => ?_
  simp [holds_range, holds_point, isAlphanum_iff_toNat, ← Char.toNat_inj, or_assoc]

lemma mem_outer : cs ∈ outer.language ↔ ∃ c, c.isAlphanum ∧ cs = [c] := by
  rw [outer_language]
  rfl

lemma mem_inners :
    cs ∈ (Regex.loop .greedy 0 none inner).language ↔ ∀ c ∈ cs, c.isAlphanum ∨ c = '-' := by
  simp [Regex.mem_language_loop inner_language]

/-- The pattern of a label matches the labels. -/
lemma mem_label : cs ∈ label.language ↔ Net.IsLabel cs := by
  have hends {c : Char} (hc : c.isAlphanum) : c ≠ '-' := by
    rintro rfl
    cases hc
  simp only [label, Regex.mem_language_alt, Regex.mem_language_seq, mem_outer, mem_inners]
  constructor
  · rintro (⟨c, hc, rfl⟩ | ⟨_, ⟨c, hc, rfl⟩, _, ⟨ds, hds, _, ⟨d, hd, rfl⟩, rfl⟩, rfl⟩)
    · exact ⟨by simp, by simp [hc], by simp [hends hc], by simp [hends hc]⟩
    · refine ⟨by simp, ?_, by simp [hends hc], by simp [List.getLast?_cons, hends hd]⟩
      simpa [hc, hd, or_imp, forall_and] using hds
  · intro h
    obtain ⟨c, rest, rfl⟩ := List.exists_cons_of_ne_nil h.nonempty
    obtain ⟨hchar, hrest⟩ := List.forall_mem_cons.mp h.chars
    have hc : c.isAlphanum := hchar.resolve_right fun hc => h.first (by simp [hc])
    rcases List.eq_nil_or_concat' rest with rfl | ⟨ds, d, rfl⟩
    · exact .inl ⟨c, hc, rfl⟩
    · obtain ⟨hds, hdchar⟩ := List.forall_mem_append.mp hrest
      have hd : d.isAlphanum := (hdchar d (by simp)).resolve_right fun hd =>
        h.last (by simp [List.getLast?_cons, hd])
      exact .inr ⟨_, ⟨c, hc, rfl⟩, _, ⟨ds, hds, _, ⟨d, hd, rfl⟩, rfl⟩, rfl⟩

lemma mem_pointed : cs ∈ pointed.language ↔ ∃ last, Net.IsLabel last ∧ '.' :: last = cs := by
  rw [pointed, Regex.mem_language_seq]
  constructor
  · rintro ⟨_, hpoint, last, hlast, rfl⟩
    obtain rfl := Regex.mem_language_literal.mp hpoint
    exact ⟨last, mem_label.mp hlast, rfl⟩
  · rintro ⟨last, hlast, rfl⟩
    exact ⟨['.'], Regex.mem_language_literal.mpr rfl, last, mem_label.mpr hlast, rfl⟩

lemma intercalate_points (first : List Char) (labels : List (List Char)) :
    ['.'].intercalate (first :: labels) = first ++ (labels.map ('.' :: ·)).flatten := by
  induction labels generalizing first with
  | nil => simp
  | cons second labels ih =>
    rw [List.intercalate_cons_cons, ih]
    simp

/-- The pattern of a host name matches labels with points between them. -/
lemma mem_parts : cs ∈ (Regex.ofList parts).language ↔ Net.HasLabels cs := by
  rw [Net.hasLabels_iff_intercalate]
  show cs ∈ (Regex.seq _ _).language ↔ _
  rw [Regex.mem_language_seq]
  constructor
  · rintro ⟨first, hfirst, _, hrest, rfl⟩
    obtain ⟨pieces, rfl, hpieces⟩ := (Regex.mem_language_star _).mp hrest
    have hpieces : ∀ piece ∈ pieces, ∃ last, Net.IsLabel last ∧ '.' :: last = piece :=
      fun piece hpiece => mem_pointed.mp (hpieces piece hpiece)
    obtain ⟨labels, rfl⟩ : pieces ∈ Set.range (List.map ('.' :: ·)) := by
      rw [Set.range_list_map]
      intro piece hpiece
      obtain ⟨last, -, hlast⟩ := hpieces piece hpiece
      exact ⟨last, hlast⟩
    have hlabels : ∀ last ∈ labels, Net.IsLabel last := by simpa using hpieces
    exact ⟨first :: labels, List.cons_ne_nil _ _,
      List.forall_mem_cons.mpr ⟨mem_label.mp hfirst, hlabels⟩, (intercalate_points _ _).symm⟩
  · rintro ⟨_, hne, hlabels, rfl⟩
    obtain ⟨first, labels, rfl⟩ := List.exists_cons_of_ne_nil hne
    obtain ⟨hfirst, hlabels⟩ := List.forall_mem_cons.mp hlabels
    refine ⟨first, mem_label.mpr hfirst, _, (Regex.mem_language_star _).mpr ⟨_, rfl, ?_⟩,
      (intercalate_points _ _).symm⟩
    exact List.forall_mem_map.mpr fun last hlast => mem_pointed.mpr ⟨last, hlabels last hlast, rfl⟩

end Hostname

end Pattern

namespace Registry

/-! ### Validators of host names -/

lemma run_hostname (value : String) :
    (Validator.leaf .hostname).run value = ⟨[], .ok (
      if 253 < value.length then .rejected
        { code := .hostnameTooLong, value, params := [("max", .int 253)], validator := "hostname" }
      else if Net.HasLabels value.toList then .accepted
      else .rejected { code := .invalidHostname, value, validator := "hostname" })⟩ := by
  have hmax : Net.maxHostname = 253 := rfl
  rw [Validator.run, Leaf.outcome_eq, Leaf.complaint?, hmax]
  split_ifs with hlong hlabels
  · rfl
  · rw [Net.isHostname_iff.mpr hlabels]
    rfl
  · rw [Leaf.require_of_not (Net.isHostname_iff.not.mpr hlabels)]
    rfl

/-- A host name has at most 253 characters and consists of labels. Whatever is longer is rejected
for its length, and any other value for its form. Without the length, the labels can be written as a
pattern, and that decides the same. -/
theorem build_hostname {depth : Int} (hdepth : depth ≤ 10) :
    ∃ v, build "hostname" depth = .ok v ∧
      (∀ value,
        (v.run value = ⟨[], .ok .accepted⟩ ↔ value.length ≤ 253 ∧ Net.HasLabels value.toList) ∧
        (v.run value = ⟨[], .ok (.rejected
            { code := .hostnameTooLong, value, params := [("max", .int 253)]
              validator := v.name })⟩ ↔ 253 < value.length) ∧
        (v.run value = ⟨[], .ok (.rejected
            { code := .invalidHostname, value, validator := v.name })⟩ ↔
          value.length ≤ 253 ∧ ¬ Net.HasLabels value.toList)) ∧
      ∃ w, build ("regex(^" ++ Pattern.Hostname.text ++ "$)") depth = .ok w ∧
        w.Decides fun value => Net.HasLabels value.toList := by
  obtain ⟨w, hw, hdecides⟩ := build_pinned Pattern.Hostname.compile_text (by decide) hdepth
  refine ⟨_, build_fixed (by decide) rfl hdepth, fun value => ?_, w, hw,
    hdecides.congr fun value => Pattern.Hostname.mem_parts⟩
  have hname : (Validator.leaf .hostname).name = "hostname" := rfl
  rw [run_hostname, hname, ← not_lt]
  split_ifs with hlong hlabels <;> simp [*]

/-- Labels of one character, hyphens one after the other, points at the ends and in a row, a hyphen
beside a point, a line end, and the first length that is too large. -/
theorem build_hostname_points :
    (10 : Int) ≤ 10 ∧ ∃ v, build "hostname" 10 = .ok v ∧
      (∀ value ∈ ["a", "a.b.c", "X--1.0", "127.0.0.1"], v.run value = ⟨[], .ok .accepted⟩) ∧
      (∀ value ∈ ["", ".", ".a", "a.", "a..b", "-a", "a.b-.c", "a_b", "a b", "a\n", "\u00e9"],
        v.run value = ⟨[], .ok (.rejected
          { code := .invalidHostname, value, validator := v.name })⟩) ∧
      let long := String.ofList (List.replicate 254 'a')
      v.run long = ⟨[], .ok (.rejected
        { code := .hostnameTooLong, value := long, params := [("max", .int 253)]
          validator := v.name })⟩ := by
  obtain ⟨v, hv, hrun, -⟩ := build_hostname (show (10 : Int) ≤ 10 from le_rfl)
  refine ⟨le_rfl, v, hv, fun value hvalue => ?_, fun value hvalue => ?_, ?_⟩
  · refine (hrun value).1.mpr ?_
    revert value
    decide
  · refine (hrun value).2.2.mpr ?_
    revert value
    decide
  · refine (hrun _).2.1.mpr ?_
    rw [String.length_ofList, List.length_replicate]
    decide

end Registry

end ValueSpec
