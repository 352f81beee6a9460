import Mathlib.Data.List.TakeWhile
import Mathlib.Tactic.SplitIfs
import ValueSpec.Proofs.Rendering
import ValueSpec.Text.Name

namespace ValueSpec

/-! ### Names -/

namespace Text

/-- Names are made of characters that go on with a name. -/
lemma isNamePart_of_isName {cs : List Char} (h : isName cs) : ∀ c ∈ cs, isNamePart c := by
  cases cs with
  | nil => exact nofun
  | cons c rest =>
    simp only [isName, Bool.and_eq_true, List.all_eq_true] at h
    have hc : isNamePart c := by simp [isNamePart, h.1]
    exact List.forall_mem_cons.mpr ⟨hc, h.2⟩

/-- The code points in ranges as the bits of a number. -/
def bitsOf (ranges : List (Nat × Nat)) : Nat :=
  ranges.foldr (fun r bits => bits ||| (1 <<< (r.2 + 1 - r.1) - 1) <<< r.1) 0

lemma testBit_bitsOf (ranges : List (Nat × Nat)) (n : Nat) :
    (bitsOf ranges).testBit n = inRanges ranges n := by
  induction ranges with
  | nil => simp [bitsOf, inRanges]
  | cons r ranges ih =>
    have hbits : bitsOf (r :: ranges) =
        bitsOf ranges ||| (1 <<< (r.2 + 1 - r.1) - 1) <<< r.1 := rfl
    have hrange : (decide (r.1 ≤ n) && decide (n - r.1 < r.2 + 1 - r.1)) =
        (decide (r.1 ≤ n) && decide (n ≤ r.2)) := by
      rw [← Bool.decide_and, ← Bool.decide_and, decide_eq_decide]
      omega
    rw [hbits, Nat.testBit_or, ih, Nat.testBit_shiftLeft, Nat.one_shiftLeft,
      Nat.testBit_two_pow_sub_one, hrange, Bool.or_comm]
    rfl

/-- The blocks of ten that the decimal digits come in. -/
def digitRanges : List (Nat × Nat) := digitZeros.map fun z => (z, z + 9)

lemma inRanges_digitRanges {c : Char} (h : isDigit c) : inRanges digitRanges c.toNat := by
  simp only [isDigit, digitValue?, Option.isSome_map, List.find?_isSome] at h
  obtain ⟨z, hz, hc⟩ := h
  simp only [Bool.and_eq_true, decide_eq_true_eq] at hc
  refine List.any_eq_true.mpr ⟨(z, z + 9), List.mem_map_of_mem hz, ?_⟩
  simp only [Bool.and_eq_true, decide_eq_true_eq]
  omega

/-- A name does not start with a digit. -/
lemma digitValue?_of_isNameStart {c : Char} (h : isNameStart c) : digitValue? c = none := by
  -- as bits, all code points of the tables are compared at once
  have hdisjoint : bitsOf (letterRanges ++ nameStartExtras) &&& bitsOf digitRanges = 0 := by
    decide +kernel
  have hletter : inRanges (letterRanges ++ nameStartExtras) c.toNat := by
    rw [isNameStart, isLetter, Bool.or_eq_true, Bool.and_eq_true] at h
    rw [inRanges, List.any_append, Bool.or_eq_true]
    exact h.imp_left And.left
  have hboth := congrArg (·.testBit c.toNat) hdisjoint
  simp only [Nat.testBit_and, testBit_bitsOf, hletter, Nat.zero_testBit, Bool.true_and] at hboth
  rw [← Option.not_isSome_iff_eq_none]
  intro hdigit
  rw [inRanges_digitRanges hdigit] at hboth
  cases hboth

end Text

namespace Template

/-! ### Plain templates -/

/-- A part of a plain template: a character, or a field that is nothing but a name. -/
inductive PlainPart
  | char (c : Char)
  | name (n : List Char) (isName : Text.isName n = true)
  deriving DecidableEq

namespace PlainPart

/-- A part as it stands in a template. -/
def written : PlainPart → List Char
  | char c => if c = '\x7b' ∨ c = '\x7d' then [c, c] else [c]
  | name n _ => '\x7b' :: (n ++ ['\x7d'])

/-- A part with a text in the place of its name. -/
def filled (text : String → String) : PlainPart → List Char
  | char c => [c]
  | name n _ => (text (String.ofList n)).toList

/-- A part as a template is read. -/
def piece : PlainPart → Piece
  | char c => .literal c
  | name n _ => .field { path := n }

/-- The parts of a template that doubles no braces. Behind an opening brace, what has been read of
a name is kept until the brace is closed. -/
def read : (name? : Option (List Char)) → List Char → List PlainPart
  | _, [] => []
  | none, c :: rest => if c = '\x7b' then read (some []) rest else .char c :: read none rest
  | some n, c :: rest =>
    if c = '\x7d' then if h : Text.isName n then .name n h :: read none rest else []
    else read (some (n ++ [c])) rest

end PlainPart

/-- The parts make up a template. -/
def Writes (parts : List PlainPart) (template : String) : Prop :=
  parts.flatMap PlainPart.written = template.toList

/-- The characters that mean something in a field. -/
def fieldMarks : List Char := ['\x7b', '\x7d', ':', '!', '[', '.']

lemma not_mem_fieldMarks_of_isName {cs : List Char} (h : Text.isName cs) :
    ∀ c ∈ cs, c ∉ fieldMarks := by
  have hmarks : fieldMarks.all (fun c => !Text.isNamePart c) = true := by decide +kernel
  intro c hc hmark
  have hpart := List.all_eq_true.mp hmarks c hmark
  rw [Text.isNamePart_of_isName h c hc] at hpart
  cases hpart

/-- A name goes up to the character that ends it. -/
lemma takePath_append {cs : List Char} (h : ∀ c ∈ cs, c ∉ fieldMarks) {stop : Char}
    (hstop : stop ∈ ['\x7d', ':', '!']) (rest : List Char) :
    takePath false (cs ++ stop :: rest) = .ok (cs, stop, rest) := by
  induction cs with
  | nil =>
    simp only [List.mem_cons, List.not_mem_nil, or_false] at hstop
    obtain rfl | rfl | rfl := hstop <;> rfl
  | cons c cs ih =>
    rw [List.forall_mem_cons] at h
    simp only [fieldMarks, List.mem_cons, List.not_mem_nil, or_false, not_or] at h
    obtain ⟨⟨hopen, hclose, hcolon, hmark, hbracket, -⟩, hcs⟩ := h
    rw [List.cons_append, takePath, if_neg hopen, if_neg (by simp [hclose, hcolon, hmark]),
      decide_eq_false hbracket, ih (by simpa [fieldMarks] using hcs)]
    rfl

lemma takeField_append {cs : List Char} (h : ∀ c ∈ cs, c ∉ fieldMarks) (rest : List Char) :
    takeField (cs ++ '\x7d' :: rest) = .ok ({ path := cs }, rest) := by
  rw [takeField, takePath_append h (by simp)]
  rfl

/-- Behind an opening brace there is a field, unless there is a second brace. -/
lemma pieces_field {c : Char} {cs after : List Char} {f : Field} (hopen : c ≠ '\x7b')
    (h : takeField (c :: cs) = .ok (f, after)) :
    pieces ('\x7b' :: c :: cs) = .field f :: pieces after := by
  rw [pieces, if_pos rfl, if_neg hopen]
  split
  · rename_i e he
    rw [h] at he
    cases he
  · rename_i f' after' hf
    rw [h] at hf
    obtain ⟨rfl, rfl⟩ := Prod.mk.inj (Except.ok.inj hf)
    rfl

/-- A name is not empty, and a field that begins with it does not begin with a brace. -/
lemma exists_cons_of_isName {cs : List Char} (h : Text.isName cs) :
    ∃ c rest, cs = c :: rest ∧ c ≠ '\x7b' := by
  cases cs with
  | nil => cases h
  | cons c rest =>
    refine ⟨c, rest, rfl, ?_⟩
    rintro rfl
    exact not_mem_fieldMarks_of_isName h _ List.mem_cons_self (by decide)

/-- A name in braces is read as a field. -/
lemma pieces_name {cs : List Char} (h : Text.isName cs) (rest : List Char) :
    pieces ('\x7b' :: (cs ++ '\x7d' :: rest)) = .field { path := cs } :: pieces rest := by
  have hfield := takeField_append (not_mem_fieldMarks_of_isName h) rest
  obtain ⟨c, cs, rfl, hopen⟩ := exists_cons_of_isName h
  exact pieces_field hopen hfield

/-- A part is read as it is written, and reading goes on behind it. -/
lemma pieces_written_append (p : PlainPart) (rest : List Char) :
    pieces (p.written ++ rest) = p.piece :: pieces rest := by
  cases p with
  | name n h =>
    rw [PlainPart.written, List.cons_append, List.append_assoc, List.singleton_append]
    exact pieces_name h rest
  | char c =>
    simp only [PlainPart.written, PlainPart.piece]
    split_ifs with hbrace
    · obtain rfl | rfl := hbrace
      · simp [pieces]
      · simp [pieces]
    · obtain ⟨hopen, hclose⟩ := not_or.mp hbrace
      cases rest with
      | nil => simp [pieces, hopen, hclose]
      | cons d rest => simp [pieces, hopen, hclose]

lemma pieces_written (parts : List PlainPart) :
    pieces (parts.flatMap PlainPart.written) = parts.map PlainPart.piece := by
  induction parts with
  | nil => simp [pieces]
  | cons p parts ih => rw [List.flatMap_cons, pieces_written_append, ih, List.map_cons]

lemma index?_of_isName {cs : List Char} (h : Text.isName cs) : index? cs = .ok none := by
  cases cs with
  | nil => cases h
  | cons c cs =>
    rw [Text.isName, Bool.and_eq_true] at h
    rw [index?, Format.takeNumber, Text.digitValue?_of_isNameStart h.1]
    rfl

lemma ne_nil_of_isName {cs : List Char} (h : Text.isName cs) : cs ≠ [] := by
  obtain ⟨c, rest, rfl, -⟩ := exists_cons_of_isName h
  exact List.cons_ne_nil c rest

/-- A name takes no steps. -/
lemma splitPath_of_isName {cs : List Char} (h : Text.isName cs) : (splitPath cs).2 = [] := by
  rw [splitPath, List.span_eq_takeWhile_dropWhile, List.dropWhile_eq_nil_iff]
  intro c hc
  have := not_mem_fieldMarks_of_isName h c hc
  simp only [fieldMarks, List.mem_cons, List.not_mem_nil, or_false, not_or] at this
  simp [this]

lemma isPlain_piece (p : PlainPart) : p.piece.isPlain := by
  cases p with
  | char c => rfl
  | name n h =>
    simp [PlainPart.piece, Piece.isPlain, ne_nil_of_isName h, splitPath_of_isName h,
      index?_of_isName h]

/-- A plain template is rendered by filling its parts. -/
theorem render_written {parts : List PlainPart} {params : List Char → List Char}
    {text : String → String} (h : ∀ n, params n = (text (String.ofList n)).toList) :
    render params (parts.flatMap PlainPart.written) =
      .ok (parts.flatMap (PlainPart.filled text)) := by
  have hfill (p : PlainPart) : p.piece.fill params = p.filled text := by
    cases p with
    | char c => rfl
    | name n _ => exact h n
  rw [render_of_plain, pieces_written, List.map_map, List.flatMap_def]
  · congr 3
    exact funext hfill
  · rw [pieces_written]
    simp [isPlain_piece]

end Template

/-! ### English templates -/

namespace Code

/-- The parts of the English template of a code. -/
def englishParts (c : Code) : List Template.PlainPart :=
  Template.PlainPart.read none c.english.toList

lemma writes_englishParts (c : Code) : Template.Writes c.englishParts c.english := by
  refine holds_of_ofList
    (P := fun cs => (Template.PlainPart.read none cs).flatMap Template.PlainPart.written = cs) ?_
  cases c <;> exact ⟨_, rfl, by decide +kernel⟩

end Code

namespace Catalog

/-! ### Catalogs -/

variable {cat : Catalog} {n : Nat} {parts : Code → List Template.PlainPart}

/-- The parts make up the templates of a catalog. -/
def Writes (cat : Catalog) (parts : Code → List Template.PlainPart) : Prop :=
  ∀ c, Template.Writes (parts c) (cat.template c)

/-- If a catalog's own templates are plain, all of its templates are. -/
lemma exists_writes (h : ∀ e ∈ cat.templates, ∃ ps, Template.Writes ps e.2) :
    ∃ parts, cat.Writes parts := by
  have hplain (c : Code) : ∃ ps, Template.Writes ps (cat.template c) := by
    rw [template]
    cases hown : cat.templates.lookup c with
    | none => exact ⟨_, c.writes_englishParts⟩
    | some t =>
      obtain ⟨before, after, hsplit, -⟩ := List.lookup_eq_some_iff.mp hown
      exact h (c, t) (by simp [hsplit])
  exact Classical.skolem.mp hplain

/-- A text of which at most `n` characters are shown. -/
def shortened (n : Nat) (text : String) : String :=
  if n < text.length then String.ofList (text.toList.take n) ++ "..." else text

/-- What a message has in the place of a name. -/
def fieldText (n : Nat) (params : Params) (name : String) : String :=
  match params.get? name with
  | none => "\x7b" ++ name ++ "\x7d"
  | some v => if name = "value" then shortened n v.message else v.message

lemma nameText_eq (hn : cat.previewChars = n) (params : Params) (name : List Char) :
    cat.nameText params name = (fieldText n params (String.ofList name)).toList := by
  have hpreview (text : String) : cat.preview text = shortened n text := by
    rw [preview, shortened, hn]
    simp only [Int.ofNat_lt]
    rfl
  rw [nameText, fieldText]
  cases params.get? (String.ofList name) with
  | none => simp
  | some v => simp only [paramText, hpreview]

/-- The message of a code is its template with the names filled in. -/
lemma format_of_writes (hn : cat.previewChars = n) (hparts : cat.Writes parts) (c : Code)
    (params : Params) :
    cat.format c params = Integer.writing params.integers
      (String.ofList ((parts c).flatMap (Template.PlainPart.filled (fieldText n params)))) := by
  rw [format, ← hparts c, Template.render_written (nameText_eq hn params)]
  rfl

end Catalog

/-! ### Rejections -/

/-- Which integers there are does not depend on a text among the parameters. -/
lemma Params.integers_set_text (params : Params) (name s s' : String) :
    Params.integers (params.set name (.text s)) = Params.integers (params.set name (.text s')) := by
  induction params with
  | nil => simp [Params.integers, Record.set]
  | cons e params ih =>
    simp only [Params.integers, Record.set] at ih ⊢
    split_ifs
    · simp
    · rw [List.flatMap_cons, List.flatMap_cons, ih]

namespace Rejection

mutual

/-- The message that fills the parts of the templates. Names mean the value, the parameters of the
rejection, which go before it, and with several causes the reasons, which go before both. -/
def filled (n : Nat) (parts : Code → List Template.PlainPart) : Rejection → String
  | ⟨code, value, params, _, causes⟩ =>
    let own : Params := Record.overlay [("value", .text value)] params
    let named :=
      if code = .combinedFailed then
        own.set "reasons" (.text (" OR ".intercalate (filledAll n parts causes)))
      else own
    String.ofList ((parts code).flatMap (Template.PlainPart.filled (Catalog.fieldText n named)))

/-- The messages of several rejections that fill the parts of the templates. -/
def filledAll (n : Nat) (parts : Code → List Template.PlainPart) : List Rejection → List String
  | [] => []
  | why :: whys => why.filled n parts :: filledAll n parts whys

end

mutual

/-- The integers that are written in the message of a rejection. -/
def integers : Rejection → List Int
  | ⟨code, value, params, _, causes⟩ =>
    let own : Params := Record.overlay [("value", .text value)] params
    if code = .combinedFailed then
      integersAll causes ++ Params.integers (own.set "reasons" (.text ""))
    else own.integers

/-- The integers that are written in the messages of several rejections. -/
def integersAll : List Rejection → List Int
  | [] => []
  | why :: whys => why.integers ++ integersAll whys

end

section

variable {cat : Catalog} {n : Nat} {parts : Code → List Template.PlainPart}

mutual

lemma render_of_writes (hn : cat.previewChars = n) (hparts : cat.Writes parts)
    (why : Rejection) : why.render cat = Integer.writing why.integers (why.filled n parts) := by
  match why with
  | ⟨code, value, params, validator, causes⟩ =>
    rw [render, renderAll_of_writes hn hparts causes, filled, integers]
    split_ifs with hcode
    · refine Integer.writing_bind _ ?_
      rw [Catalog.format_of_writes hn hparts, Params.integers_set_text]
    · exact Catalog.format_of_writes hn hparts _ _

lemma renderAll_of_writes (hn : cat.previewChars = n) (hparts : cat.Writes parts)
    (whys : List Rejection) :
    renderAll cat whys = Integer.writing (integersAll whys) (filledAll n parts whys) := by
  match whys with
  | [] => rfl
  | why :: whys =>
    rw [renderAll, render_of_writes hn hparts why, renderAll_of_writes hn hparts whys]
    refine Integer.writing_bind _ ?_
    exact Integer.writing_map _ _ _

end

/-- If a catalog's own templates are plain, every message is the template of its code, the
catalog's own or the English one, with its names filled in, and so are the reasons in it. There is
no message where an integer in it is too long to be written. -/
theorem render_plain (hn : cat.previewChars = n)
    (hown : ∀ e ∈ cat.templates, ∃ ps, Template.Writes ps e.2) :
    (∃ parts, cat.Writes parts) ∧
    ∀ parts, cat.Writes parts → ∀ why : Rejection,
      why.render cat = Integer.writing why.integers (why.filled n parts) :=
  ⟨Catalog.exists_writes hown, fun _ hparts why => render_of_writes hn hparts why⟩

/-- Braces in values, in parameters and in the messages of causes stay as they are. -/
theorem render_plain_braces :
    let template := "\x7b\x7b{value}\x7d\x7d: {reasons}{nobody}"
    let cat : Catalog := { templates := [(.combinedFailed, template)], previewChars := 3 }
    let custom : Rejection :=
      { code := .customFailed, value := "a\x7b\x7db"
        params := [("name", .text "{reason}"), ("reason", .text "\x7d{value}")] }
    let inner : Rejection :=
      { code := .combinedFailed, value := "a\x7b\x7db", causes := [custom] }
    let why : Rejection :=
      { code := .combinedFailed, value := "a\x7b\x7db", causes := [custom, inner] }
    why.render cat = .ok
      ("\x7ba\x7b\x7d...\x7d: {reason}: \x7d{value} OR " ++
        "\x7ba\x7b\x7d...\x7d: {reason}: \x7d{value}{nobody}{nobody}") := by
  intro template cat custom inner why
  let combined : List Template.PlainPart :=
    [.char '\x7b', .name "value".toList (by decide +kernel), .char '\x7d', .char ':', .char ' ',
      .name "reasons".toList (by decide +kernel), .name "nobody".toList (by decide +kernel)]
  have hcombined : Template.Writes combined template := by
    rw [Template.Writes]
    decide +kernel
  have henglish : Code.englishParts .customFailed =
      [.name "name".toList (by decide +kernel), .char ':', .char ' ',
        .name "reason".toList (by decide +kernel)] := by
    decide +kernel
  have hpreview : cat.previewChars = (3 : Nat) := rfl
  obtain ⟨-, hrender⟩ := render_plain hpreview (by
    rintro _ (_ | ⟨_, ⟨⟩⟩)
    exact ⟨combined, hcombined⟩)
  have hparts : cat.Writes fun c => if c = .combinedFailed then combined else c.englishParts := by
    intro c
    dsimp only
    split_ifs with hc
    · rw [hc]
      exact hcombined
    · have hfallback : cat.template c = c.english := by
        rw [Catalog.template, List.lookup_cons, beq_false_of_ne hc]
        rfl
      rw [hfallback]
      exact c.writes_englishParts
  rw [hrender _ hparts why]
  have hlength : "a\x7b\x7db".length = 4 := by decide +kernel
  simp [why, custom, inner, combined, filled, filledAll, integers, integersAll, Params.integers,
    henglish, hlength, Catalog.fieldText,
    Catalog.shortened, Record.overlay, Record.set, Record.get?, List.lookup_cons,
    List.lookup_nil, Template.PlainPart.filled]

end

end Rejection

end ValueSpec
