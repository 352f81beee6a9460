import Mathlib.Data.List.TakeDrop
import Mathlib.Tactic.Lemma
import ValueSpec.Report
import ValueSpec.Suite

namespace ValueSpec

namespace Template

/-! ### Plain templates -/

/-- Is a part of a template a character or a field that is nothing but a name? -/
def Piece.isPlain : Piece → Bool
  | literal _ => true
  | broken _ => false
  | field f =>
    f.conversion.isNone && f.format.isEmpty && !f.nested && !f.path.isEmpty &&
      (splitPath f.path).2.isEmpty &&
      match index? f.path with
      | .ok none => true
      | _ => false

/-- What a part of a plain template contributes. -/
def Piece.fill (params : List Char → List Char) : Piece → List Char
  | literal c => [c]
  | broken _ => []
  | field f => params f.path

/-- Literal characters stand for themselves. -/
lemma flatten_fill_literal (params : List Char → List Char) (cs : List Char) :
    ((cs.map Piece.literal).map (Piece.fill params)).flatten = cs := by
  induction cs with
  | nil => rfl
  | cons c cs ih => simpa [Piece.fill] using ih

lemma splitPath_append (path : List Char) : (splitPath path).1 ++ (splitPath path).2 = path := by
  unfold splitPath
  rw [List.span_eq_takeWhile_dropWhile, List.takeWhile_append_dropWhile]

/-- A name leads to the parameter with this name. -/
lemma lookup_of_plain (params : List Char → List Char) {path : List Char}
    (hname : path ≠ []) (hsteps : (splitPath path).2 = []) (hindex : index? path = .ok none) :
    lookup params path = .ok (params path) := by
  have hsplit : splitPath path = (path, []) := by
    have hpath := splitPath_append path
    rw [hsteps, List.append_nil] at hpath
    exact Prod.ext hpath hsteps
  have hempty : path.isEmpty = false := by simpa using hname
  rw [lookup, hsplit]
  dsimp only
  rw [hindex, hempty]
  exact follow.eq_1 _

lemma mapM_eq_ok {ε α β : Type} {f : α → Except ε β} {g : α → β} {as : List α}
    (h : ∀ a ∈ as, f a = .ok (g a)) : as.mapM f = .ok (as.map g) := by
  induction as with
  | nil => rfl
  | cons a as ih =>
    rw [List.mapM_cons, h a (by simp), ih fun b hb => h b (by simp [hb])]
    rfl

/-- A plain template is rendered by filling its fields. -/
theorem render_of_plain (params : List Char → List Char) {template : List Char}
    (h : ∀ p ∈ pieces template, p.isPlain) :
    render params template = .ok ((pieces template).map (Piece.fill params)).flatten := by
  rw [render, renderWithin, mapM_eq_ok (g := Piece.fill params)]
  · rfl
  · intro p hp
    have hplain := h p hp
    cases p with
    | literal c => rfl
    | broken e => simp [Piece.isPlain] at hplain
    | field f =>
      obtain ⟨path, conversion, format, nested⟩ := f
      simp only [Piece.isPlain, Bool.and_eq_true] at hplain
      obtain ⟨⟨⟨⟨⟨hconversion, hformat⟩, hnested⟩, hname⟩, hsteps⟩, hindex⟩ := hplain
      obtain rfl : conversion = none := by simpa using hconversion
      obtain rfl : format = [] := by simpa using hformat
      obtain rfl : nested = false := by simpa using hnested
      have hnumber : index? path = .ok none := by
        split at hindex
        · assumption
        · cases hindex
      have hlookup := lookup_of_plain params (by simpa using hname) (by simpa using hsteps) hnumber
      dsimp only
      rw [hlookup]
      rfl

end Template

/-! ### English messages -/

/-- The characters of a literal are best given as a list, for decoding the literal takes long. -/
lemma holds_of_ofList {P : List Char → Prop} {s : String}
    (h : ∃ cs, s = String.ofList cs ∧ P cs) : P s.toList := by
  obtain ⟨cs, rfl, hcs⟩ := h
  rwa [String.toList_ofList]

lemma Code.pieces_english (c : Code) : (Template.pieces c.english.toList).all (·.isPlain) := by
  refine holds_of_ofList (P := fun cs => (Template.pieces cs).all (·.isPlain) = true) ?_
  cases c <;> exact ⟨_, rfl, by decide +kernel⟩

namespace Catalog

lemma lookup_map_of_mem {cs : List Code} {c : Code} (h : c ∈ cs) (f : Code → String) :
    (cs.map fun d => (d, f d)).lookup c = some (f c) := by
  induction cs with
  | nil => cases h
  | cons d cs ih =>
    by_cases hd : c = d
    · simp [hd]
    · have hmem : c ∈ cs := (List.mem_cons.mp h).resolve_left hd
      rw [List.map_cons, List.lookup_cons, beq_false_of_ne hd]
      exact ih hmem

lemma template_english (c : Code) : english.template c = c.english := by
  rw [template, english, lookup_map_of_mem c.mem_all, Option.getD_some]

/-- A parameter that is a text is put into messages as it is; only an offending value is cut. -/
lemma nameText_of_text {cat : Catalog} {params : Params} {name text : String}
    (h : params.get? name = some (.text text)) (hname : name ≠ "value") :
    cat.nameText params name.toList = text.toList := by
  rw [nameText, String.ofList_toList, h]
  simp [paramText, hname]

variable {params : Params}

/-- The English message of a code is its template with the names filled in. -/
lemma format_english_eq (c : Code) (h : params.integers.all Integer.isShort) :
    english.format c params =
      .ok (String.ofList ((Template.pieces c.english.toList).map
        (Template.Piece.fill (english.nameText params))).flatten) := by
  have hplain := List.all_eq_true.mp c.pieces_english
  rw [format, if_pos h, template_english, Template.render_of_plain _ hplain]
  rfl

/-- Every code has an English message, whatever its parameters are, if they can be written. -/
theorem format_english (c : Code) (h : params.integers.all Integer.isShort) :
    ∃ message, english.format c params = .ok message :=
  ⟨_, format_english_eq c h⟩

end Catalog

namespace SpecError

/-- Is the error one of those that have a name of their own, with a number that can be written if
it has one? -/
def isNamed : SpecError → Bool
  | general .. => false
  | requiresArguments _ n => Integer.isShort n
  | tooDeep n => Integer.isShort n
  | _ => true

lemma isShort_params {e : SpecError} (h : e.isNamed) :
    e.params.integers.all Integer.isShort := by
  cases e with
  | general c ps cause => cases h
  | requiresArguments v n => simpa [params, Params.integers, isNamed] using h
  | tooDeep n => simpa [params, Params.integers, isNamed] using h
  | _ => simp [params, Params.integers]

lemma text_english {e : SpecError} (h : e.isNamed) :
    ∃ message, e.text .english = .ok message :=
  Catalog.format_english e.code (isShort_params h)

/-- No error with a name of its own has a parameter that is named like a part of a report. -/
lemma clash?_params {e : SpecError} (h : e.isNamed) :
    Report.clash? ["code", "origin", "cause", "root_code", "message"] (e.params.without "spec") =
      none := by
  cases e with
  | general c ps cause => cases h
  | _ => rfl

/-- An error with a name of its own that has a message becomes a report with this message. -/
lemma exists_toReport {cat : Catalog} {e : SpecError} {message : String} (h : e.isNamed)
    (hmessage : e.text cat = .ok message) (origin : String) :
    ∃ report, e.toReport cat origin = .ok report ∧ report.message = message ∧
      report.cause = some e := by
  rw [toReport, hmessage]
  dsimp only [bind, Except.bind]
  rw [clash?_params h]
  exact ⟨_, rfl, rfl, rfl⟩

lemma toReport_english {e : SpecError} (h : e.isNamed) (origin : String) :
    ∃ report, e.toReport .english origin = .ok report := by
  obtain ⟨message, hmessage⟩ := text_english h
  obtain ⟨report, hreport, -⟩ := exists_toReport h hmessage origin
  exact ⟨report, hreport⟩

end SpecError

end ValueSpec
