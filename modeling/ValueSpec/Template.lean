import ValueSpec.Template.Format
import ValueSpec.Text.Quoted

/-!
# Message templates

A template is text with replacement fields between braces; a doubled brace stands for itself. A
field names a parameter, may take steps into its text (`[0]`), may convert it (`!r`) and may lay
it out (`:>10`); the layout may hold fields of its own. Rendering is a single pass: what a
parameter contributes is never read as a template again.
-/

namespace ValueSpec

namespace Template

/-- A replacement field. -/
structure Field where
  /-- The name of the parameter and the steps into it, as written. -/
  path : List Char
  conversion : Option Char := none
  format : List Char := []
  /-- Whether the format holds fields of its own. -/
  nested : Bool := false
  deriving DecidableEq, Repr

/-- A part of a template. -/
inductive Piece
  | literal (c : Char)
  | field (f : Field)
  /-- The rest of the template cannot be read. -/
  | broken (e : TemplateError)
  deriving DecidableEq, Repr

/-! ### Reading -/

/-- The name of a field, the character that ends it, and the text after that. Between brackets
every character belongs to the name. -/
def takePath : (bracket : Bool) → List Char → Except TemplateError (List Char × Char × List Char)
  | _, [] => .error .unclosedField
  | true, c :: rest => do
    let (path, stop, rest) ← takePath (c ≠ ']') rest
    return (c :: path, stop, rest)
  | false, c :: rest =>
    if c = '\x7b' then .error .openInName
    else if c = '\x7d' || c = ':' || c = '!' then .ok ([], c, rest)
    else do
      let (path, stop, rest) ← takePath (c = '[') rest
      return (c :: path, stop, rest)

/-- A format up to the brace that closes its field, `depth` braces being open within it; the flag
says whether it holds fields of its own. -/
def takeFormat : (depth : Nat) → List Char → Except TemplateError (List Char × Bool × List Char)
  | _, [] => .error .unclosedFormat
  | depth, c :: rest =>
    if c = '\x7d' && depth = 0 then .ok ([], false, rest)
    else do
      let inner := if c = '\x7b' then depth + 1 else if c = '\x7d' then depth - 1 else depth
      let (format, nested, rest) ← takeFormat inner rest
      return (c :: format, nested || c = '\x7b', rest)

/-- A field after its opening brace, and the text after its closing brace. -/
def takeField (cs : List Char) : Except TemplateError (Field × List Char) := do
  let (path, stop, rest) ← takePath false cs
  if stop = '\x7d' then return ({ path }, rest)
  else if stop = ':' then
    let (format, nested, rest) ← takeFormat 0 rest
    return ({ path, format, nested }, rest)
  else
    match rest with
    | [] => .error .noConversion
    | [_] => .error .unclosedFormat
    | conversion :: c :: rest =>
      if c = '\x7d' then return ({ path, conversion := some conversion }, rest)
      else if c ≠ ':' then .error .colonExpected
      else
        let (format, nested, rest) ← takeFormat 0 rest
        return ({ path, conversion := some conversion, format, nested }, rest)

/-! ### What is left after a field is shorter -/

theorem length_takePath {bracket : Bool} {cs : List Char} {r : List Char × Char × List Char}
    (h : takePath bracket cs = .ok r) : r.2.2.length < cs.length := by
  induction cs generalizing bracket r with
  | nil => cases bracket <;> simp [takePath] at h
  | cons c rest ih =>
    cases bracket with
    | true =>
      simp only [takePath, bind, Except.bind] at h
      split at h
      · cases h
      · rename_i r' h'
        obtain rfl := Except.ok.inj h
        have := ih h'
        exact Nat.lt_succ_of_lt this
    | false =>
      simp only [takePath, bind, Except.bind] at h
      split at h
      · cases h
      · split at h
        · obtain rfl := Except.ok.inj h
          simp
        · split at h
          · cases h
          · rename_i r' h'
            obtain rfl := Except.ok.inj h
            have := ih h'
            exact Nat.lt_succ_of_lt this

theorem length_takeFormat {depth : Nat} {cs : List Char} {r : List Char × Bool × List Char}
    (h : takeFormat depth cs = .ok r) : r.2.2.length < cs.length := by
  induction cs generalizing depth r with
  | nil => simp [takeFormat] at h
  | cons c rest ih =>
    simp only [takeFormat, bind, Except.bind] at h
    split at h
    · obtain rfl := Except.ok.inj h
      simp
    · split at h
      · cases h
      · rename_i r' h'
        obtain rfl := Except.ok.inj h
        have := ih h'
        exact Nat.lt_succ_of_lt this

theorem length_takeField {cs : List Char} {r : Field × List Char}
    (h : takeField cs = .ok r) : r.2.length < cs.length := by
  simp only [takeField, bind, Except.bind] at h
  split at h
  · cases h
  rename_i p hp
  have hlen := length_takePath hp
  split at h
  · obtain rfl := Except.ok.inj h
    exact hlen
  split at h
  · split at h
    · cases h
    rename_i q hq
    obtain rfl := Except.ok.inj h
    exact Nat.lt_trans (length_takeFormat hq) hlen
  split at h
  · cases h
  · cases h
  · rename_i conversion c rest hrest
    rw [hrest] at hlen
    simp only [List.length_cons] at hlen
    split at h
    · obtain rfl := Except.ok.inj h
      dsimp only
      omega
    split at h
    · cases h
    split at h
    · cases h
    · rename_i q hq
      obtain rfl := Except.ok.inj h
      have : q.2.2.length < rest.length := length_takeFormat hq
      exact Nat.lt_trans this (by omega)

def pieces : List Char → List Piece
  | [] => []
  | [c] =>
    if c = '\x7b' then [.broken .loneOpen]
    else if c = '\x7d' then [.broken .loneClose]
    else [.literal c]
  | c :: d :: rest =>
    if c = '\x7b' then
      if d = '\x7b' then .literal c :: pieces rest
      else
        match h : takeField (d :: rest) with
        | .error e => [.broken e]
        | .ok (f, after) =>
          have : after.length < rest.length + 1 := length_takeField h
          .field f :: pieces after
    else if c = '\x7d' then
      if d = '\x7d' then .literal c :: pieces rest else [.broken .loneClose]
    else .literal c :: pieces (d :: rest)
  termination_by cs => cs.length
  decreasing_by
    · exact Nat.lt_add_of_pos_right Nat.zero_lt_two
    · exact Nat.lt_succ_of_lt this
    · exact Nat.lt_add_of_pos_right Nat.zero_lt_two
    · exact Nat.lt_succ_self _

/-! ### Steps into a text -/

/-- A number written in decimal digits of any script; `none` if the text is not one. -/
def index? (cs : List Char) : Except TemplateError (Option Nat) := do
  match ← Format.takeNumber none cs with
  | (n, []) => return n
  | _ => return none

/-- The part of a path up to the first step, and the steps. -/
def splitPath (path : List Char) : List Char × List Char :=
  path.span fun c => c ≠ '.' && c ≠ '['

/-- Follow the steps of a path into a text. -/
def follow (text : List Char) : (steps : List Char) → Except TemplateError (List Char)
  | [] => .ok text
  | '.' :: rest =>
    let name := rest.takeWhile fun c => c ≠ '.' && c ≠ '['
    if name.isEmpty then .error .emptyStep else .error (.noAttribute (String.ofList name))
  | '[' :: rest => do
    let name := rest.takeWhile (· ≠ ']')
    let after := rest.dropWhile (· ≠ ']')
    if after.isEmpty then .error .missingBracket
    else
      let index ← index? name
      if name.isEmpty then .error .emptyStep
      else
        match index with
        | none => .error .namedIndex
        | some n =>
          match text[n]? with
          | none => .error .indexOutOfRange
          | some c => follow [c] after.tail
  | _ :: _ => .error .afterBracket
  termination_by steps => steps.length
  decreasing_by
    have : (rest.dropWhile (· ≠ ']')).length ≤ rest.length := (List.dropWhile_sublist _).length_le
    simp only [List.length_tail, List.length_cons]
    omega

/-! ### Rendering -/

/-- Convert a text: quoted, as it is, or quoted in ASCII. -/
def convert (text : List Char) : Option Char → Except TemplateError (List Char)
  | none => .ok text
  | some 'r' => .ok (Text.quote (String.ofList text)).toList
  | some 's' => .ok text
  | some 'a' => .ok (Text.quoteAscii (String.ofList text)).toList
  | some c => .error (.unknownConversion c)

/-- The text that a path leads to. The parameter must be named, and not by a number. -/
def lookup (params : List Char → List Char) (path : List Char) :
    Except TemplateError (List Char) := do
  let (name, steps) := splitPath path
  let index ← index? name
  if name.isEmpty || index.isSome then .error .positional
  else follow (params name) steps

/-- Render a template to at most the given depth of nested formats. -/
def renderWithin (params : List Char → List Char) :
    (depth : Nat) → List Char → Except TemplateError (List Char)
  | 0, _ => .error .tooDeep
  | depth + 1, template => do
    let parts ← (pieces template).mapM fun
      | .literal c => .ok [c]
      | .broken e => .error e
      | .field f => do
        let text ← lookup params f.path
        let text ← convert text f.conversion
        let format ← if f.nested then renderWithin params depth f.format else .ok f.format
        Format.apply format text
    return parts.flatten

/-- Render a template; `params` gives the text of every name. -/
def render (params : List Char → List Char) (template : List Char) :
    Except TemplateError (List Char) :=
  renderWithin params 2 template

end Template

end ValueSpec
