import ValueSpec.Proofs.Layouts
import ValueSpec.Proofs.Messages

namespace ValueSpec

namespace Template

/-- A conversion of a text. -/
inductive Conversion
  | quoted
  | same
  | ascii

namespace Conversion

/-- The letter that names a conversion. -/
def char : Conversion → Char
  | quoted => 'r'
  | same => 's'
  | ascii => 'a'

/-- A text that has been converted. -/
def apply : Conversion → List Char → List Char
  | quoted, text => (Text.quote (String.ofList text)).toList
  | same, text => text
  | ascii, text => (Text.quoteAscii (String.ofList text)).toList

lemma convert_char (c : Conversion) (text : List Char) :
    convert text (some c.char) = .ok (c.apply text) := by
  cases c <;> rfl

end Conversion

/-- A placeholder. -/
structure Placeholder where
  name : List Char
  isName : Text.isName name
  conversion : Option Conversion := none
  layout : Option Format.Layout := none

namespace Placeholder

/-- What stands behind the name. -/
def tail (p : Placeholder) : List Char :=
  p.conversion.elim [] (fun c => ['!', c.char]) ++ p.layout.elim [] (fun l => ':' :: l.written)

/-- A placeholder in a template. -/
def written (p : Placeholder) : List Char := '\x7b' :: (p.name ++ p.tail ++ ['\x7d'])

/-- A placeholder as a template is read. -/
def field (p : Placeholder) : Field where
  path := p.name
  conversion := p.conversion.map Conversion.char
  format := p.layout.elim [] Format.Layout.written

/-- A text in the place of a placeholder. -/
def shown (p : Placeholder) (text : List Char) : List Char :=
  let text := p.conversion.elim text (·.apply text)
  p.layout.elim text (·.format.layout text)

end Placeholder

/-! ### Reading placeholders -/

/-- A format without braces goes up to the brace that closes its field. -/
lemma takeFormat_append {cs : List Char} (h : ∀ c ∈ cs, c ≠ '\x7b' ∧ c ≠ '\x7d')
    (rest : List Char) : takeFormat 0 (cs ++ '\x7d' :: rest) = .ok (cs, false, rest) := by
  induction cs with
  | nil => rfl
  | cons c cs ih =>
    obtain ⟨⟨hopen, hclose⟩, hcs⟩ := List.forall_mem_cons.mp h
    rw [List.cons_append, takeFormat, if_neg (by simp [hclose])]
    simp only [if_neg hopen, if_neg hclose, decide_eq_false hopen]
    rw [ih hcs]
    rfl

lemma takeField_placeholder (p : Placeholder) (rest : List Char) :
    takeField (p.name ++ p.tail ++ '\x7d' :: rest) = .ok (p.field, rest) := by
  have hmarks := not_mem_fieldMarks_of_isName p.isName
  have hformat (l : Format.Layout) :
      takeFormat 0 (l.written ++ '\x7d' :: rest) = .ok (l.written, false, rest) :=
    takeFormat_append (fun _ => l.ne_brace_of_mem_written) rest
  -- one case for every way to write a field: with or without a conversion and a format
  obtain ⟨name, hname, _ | c, _ | l⟩ := p
  · have htext : name ++ Placeholder.tail ⟨name, hname, none, none⟩ ++ '\x7d' :: rest =
        name ++ '\x7d' :: rest := by
      simp [Placeholder.tail]
    rw [htext, takeField_append hmarks]
    rfl
  · have htext : name ++ Placeholder.tail ⟨name, hname, none, some l⟩ ++ '\x7d' :: rest =
        name ++ ':' :: (l.written ++ '\x7d' :: rest) := by
      simp [Placeholder.tail]
    rw [htext, takeField, takePath_append hmarks (by simp)]
    dsimp only [bind, Except.bind]
    rw [if_neg (by decide), if_pos rfl, hformat]
    rfl
  · have htext : name ++ Placeholder.tail ⟨name, hname, some c, none⟩ ++ '\x7d' :: rest =
        name ++ '!' :: c.char :: '\x7d' :: rest := by
      simp [Placeholder.tail]
    rw [htext, takeField, takePath_append hmarks (by simp)]
    dsimp only [bind, Except.bind]
    rw [if_neg (by decide), if_neg (by decide)]
    cases rest with
    | nil => rfl
    | cons d rest => rfl
  · have htext : name ++ Placeholder.tail ⟨name, hname, some c, some l⟩ ++ '\x7d' :: rest =
        name ++ '!' :: c.char :: ':' :: (l.written ++ '\x7d' :: rest) := by
      simp [Placeholder.tail]
    rw [htext, takeField, takePath_append hmarks (by simp)]
    dsimp only [bind, Except.bind]
    rw [if_neg (by decide), if_neg (by decide), if_neg (by decide), if_neg (by decide), hformat]
    rfl

/-! ### Templates of placeholders -/

/-- A part of a template: a character, or a placeholder. -/
inductive Part
  | char (c : Char)
  | placeholder (p : Placeholder)

namespace Part

/-- A part as it stands in a template. -/
def written : Part → List Char
  | char c => (PlainPart.char c).written
  | placeholder p => p.written

/-- A part as a template is read. -/
def piece : Part → Piece
  | char c => .literal c
  | placeholder p => .field p.field

/-- A part in a message; `params` gives the text of every name. -/
def shown (params : List Char → List Char) : Part → List Char
  | char c => [c]
  | placeholder p => p.shown (params p.name)

end Part

/-- A part is read as it is written, and reading goes on behind it. -/
lemma pieces_part_append (p : Part) (rest : List Char) :
    pieces (p.written ++ rest) = p.piece :: pieces rest := by
  cases p with
  | char c => exact pieces_written_append (.char c) rest
  | placeholder p =>
    have hfield := takeField_placeholder p rest
    obtain ⟨c, cs, hname, hopen⟩ := exists_cons_of_isName p.isName
    rw [hname, List.cons_append, List.cons_append] at hfield
    have hpieces := pieces_field hopen hfield
    simpa [Part.written, Part.piece, Placeholder.written, hname] using hpieces

lemma pieces_parts (parts : List Part) :
    pieces (parts.flatMap Part.written) = parts.map Part.piece := by
  induction parts with
  | nil => simp [pieces]
  | cons p parts ih => rw [List.flatMap_cons, pieces_part_append, ih, List.map_cons]

namespace Placeholder

variable (p : Placeholder) (params : List Char → List Char)

lemma lookup_name : lookup params p.name = .ok (params p.name) :=
  lookup_of_plain params (ne_nil_of_isName p.isName) (splitPath_of_isName p.isName)
    (index?_of_isName p.isName)

/-- A text is converted, and then it is laid out. -/
lemma convert_apply (text : List Char) :
    (convert text p.field.conversion >>= Format.apply p.field.format) = .ok (p.shown text) := by
  obtain ⟨name, hname, _ | c, _ | l⟩ := p
  · rfl
  · exact l.apply_written text
  · show (convert text (some c.char) >>= Format.apply []) = _
    rw [c.convert_char]
    rfl
  · show (convert text (some c.char) >>= Format.apply l.written) = _
    rw [c.convert_char]
    exact l.apply_written _

end Placeholder

/-- A template of placeholders always has a text: each name is replaced by its text, which is
converted and laid out. -/
lemma render_parts (params : List Char → List Char) (parts : List Part) :
    render params (parts.flatMap Part.written) = .ok (parts.flatMap (Part.shown params)) := by
  rw [render, renderWithin, pieces_parts, List.mapM_map, mapM_eq_ok (g := Part.shown params)]
  · rfl
  · intro p _
    cases p with
    | char c => rfl
    | placeholder p =>
      show (lookup params p.name >>= fun text =>
        convert text p.field.conversion >>= Format.apply p.field.format) = _
      rw [p.lookup_name]
      exact p.convert_apply (params p.name)

/-! ### Placeholders of unknown names -/

/-- A quoted text does not begin with a brace. -/
lemma not_prefix_quoteWith (visible : Char → Bool) (s : String) (cs : List Char) :
    ¬ '\x7b' :: cs <+: (Text.quoteWith visible s).toList := by
  rw [Text.quoteWith, String.toList_ofList, List.cons_prefix_cons, Text.quoteFor]
  split_ifs <;> simp

namespace Placeholder

variable (p : Placeholder)

lemma tail_eq_nil_iff : p.tail = [] ↔ p.conversion = none ∧ p.layout = none := by
  rw [tail, List.append_eq_nil_iff]
  cases p.conversion <;> cases p.layout <;> simp

/-- A name in braces that has been converted begins with the placeholder only if the placeholder
is nothing but the name. -/
lemma tail_eq_nil_of_prefix
    (h : p.written <+: p.conversion.elim ('\x7b' :: (p.name ++ ['\x7d']))
      (·.apply ('\x7b' :: (p.name ++ ['\x7d'])))) : p.tail = [] := by
  have hshort (h : p.written <+: '\x7b' :: (p.name ++ ['\x7d'])) : p.tail = [] := by
    have hlength := h.length_le
    rw [written] at hlength
    simp only [List.length_cons, List.length_append, List.length_nil] at hlength
    exact List.eq_nil_of_length_eq_zero (by omega)
  rcases hconversion : p.conversion with _ | _ | _ | _ <;> rw [hconversion] at h
  · exact hshort h
  · exact absurd h (not_prefix_quoteWith _ _ _)
  · exact hshort h
  · exact absurd h (not_prefix_quoteWith _ _ _)

/-- The name in braces, converted and laid out, is the placeholder as it is written exactly if
there is nothing to convert and to lay out. -/
lemma shown_braces_eq_written_iff :
    p.shown ('\x7b' :: (p.name ++ ['\x7d'])) = p.written ↔
      p.conversion = none ∧ p.layout = none := by
  rw [← tail_eq_nil_iff]
  constructor
  · intro h
    apply p.tail_eq_nil_of_prefix
    rw [shown] at h
    cases hlayout : p.layout with
    | none =>
      rw [hlayout] at h
      exact h ▸ List.prefix_rfl
    | some l =>
      rw [hlayout] at h
      exact l.prefix_of_layout h
  · intro htail
    obtain ⟨hconversion, hlayout⟩ := p.tail_eq_nil_iff.mp htail
    rw [shown, written, htail, hconversion, hlayout, List.append_nil]
    rfl

end Placeholder

end Template

namespace Catalog

open Template

/-- Whatever the parameters are, if their integers can be written, a template of characters and
placeholders has a text, in which every placeholder whose name is a parameter is the text of this
parameter, converted and laid out, and every other one is its name in braces, converted and laid
out. This is the placeholder as it is written exactly if it has neither a conversion nor a
layout. -/
theorem format_placeholders (cat : Catalog) (c : Code) (params : Params) {parts : List Part}
    (h : parts.flatMap Part.written = (cat.template c).toList) :
    cat.format c params = Integer.writing params.integers
      (String.ofList (parts.flatMap (Part.shown (cat.nameText params)))) ∧
    ∀ p, Part.placeholder p ∈ parts →
      (∀ v, params.get? (String.ofList p.name) = some v →
        p.shown (cat.nameText params p.name) =
          p.shown (cat.paramText (String.ofList p.name) v).toList) ∧
      (params.get? (String.ofList p.name) = none →
        p.shown (cat.nameText params p.name) = p.shown ('\x7b' :: (p.name ++ ['\x7d'])) ∧
        (p.shown (cat.nameText params p.name) = p.written ↔
          p.conversion = none ∧ p.layout = none)) := by
  constructor
  · rw [format, ← h, render_parts]
    rfl
  · intro p _
    constructor
    · intro v hv
      rw [nameText, hv]
    · intro hnone
      rw [nameText, hnone]
      exact ⟨rfl, p.shown_braces_eq_written_iff⟩

/-- A parameter that is quoted and laid out, and an unknown name with a layout and without one. -/
theorem format_placeholders_who :
    let cat : Catalog := { templates := [(.validationGeneric, "{value!r:>6} {who:x^9} {who}")] }
    let params : Params := [("value", .text "ab")]
    let who : Placeholder := { name := "who".toList, isName := by decide +kernel }
    let centered : Placeholder :=
      { who with
        layout := some
          { alignment := .filled 'x' .center (by decide) (by decide)
            width := some ⟨['9'], by decide, by decide, by decide⟩ } }
    cat.format .validationGeneric params = .ok "  'ab' xx{who}xx {who}" ∧
      who.shown (cat.nameText params who.name) = who.written ∧
      centered.shown (cat.nameText params centered.name) ≠ centered.written := by
  intro cat params who centered
  let value : Placeholder :=
    { name := "value".toList
      isName := by decide +kernel
      conversion := some .quoted
      layout := some
        { alignment := .side .right
          width := some ⟨['6'], by decide, by decide, by decide⟩ } }
  let parts : List Part :=
    [.placeholder value, .char ' ', .placeholder centered, .char ' ', .placeholder who]
  have hparts : parts.flatMap Part.written = (cat.template .validationGeneric).toList := by
    decide +kernel
  have hvalue : cat.nameText params value.name = "ab".toList := by
    have hpreview : cat.preview "ab" = "ab" := by decide +kernel
    have hname : String.ofList value.name = "value" := String.ofList_toList
    simp [nameText, paramText, params, hname, hpreview, Record.get?]
  have hnone : params.get? (String.ofList who.name) = none := rfl
  have hwho : cat.nameText params who.name = "{who}".toList := by
    rw [nameText, hnone]
    rfl
  obtain ⟨htext, hfields⟩ := format_placeholders cat .validationGeneric params hparts
  refine ⟨?_, ?_, ?_⟩
  · have hintegers : Params.integers params = [] := by simp [params, Params.integers]
    rw [htext, hintegers, Integer.writing_nil]
    simp only [parts, List.flatMap_cons, List.flatMap_nil, Part.shown, hvalue, hwho,
      show centered.name = who.name from rfl]
    decide +kernel
  · exact ((hfields who (by simp [parts])).2 hnone).2.mpr ⟨rfl, rfl⟩
  · intro h
    have hbare := ((hfields centered (by simp [parts])).2 hnone).2.mp h
    cases hbare.2

/-- Unknown names with a conversion or with a layout do not stay as they are written. -/
theorem not_format_placeholders :
    let text (template : String) : Except Fault String :=
      format { templates := [(.validationGeneric, template)] } .validationGeneric []
    (text "{who!r}" = .ok "'{who}'" ∧ text "{who!r}" ≠ .ok "{who!r}") ∧
      text "{who:>6}" = .ok " {who}" ∧ text "{who:>6}" ≠ .ok "{who:>6}" := by
  decide +kernel

end Catalog

end ValueSpec
