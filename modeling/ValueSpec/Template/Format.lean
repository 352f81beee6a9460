import ValueSpec.Template.Error
import ValueSpec.Text.Letter

namespace ValueSpec

/-- A format as it is written. -/
structure Format where
  fill : Char := ' '
  align : Char := '<'
  sign : Option Char := none
  coerceZero : Bool := false
  alternate : Bool := false
  width : Option Nat := none
  separator : Option Char := none
  precision : Option Nat := none
  kind : Char := 's'
  deriving DecidableEq, Repr

namespace Format

/-- The largest number that a template may hold. -/
def numberLimit : Nat := Nat.pow 2 63 - 1

def isAlign (c : Char) : Bool := c = '<' || c = '>' || c = '=' || c = '^'

/-- Read digits onto a number; `none` for the number if there are none. -/
def takeNumber : Option Nat → List Char → Except TemplateError (Option Nat × List Char)
  | n, [] => .ok (n, [])
  | n, c :: rest =>
    match Text.digitValue? c with
    | none => .ok (n, c :: rest)
    | some d =>
      let m := 10 * n.getD 0 + d
      if numberLimit < m then .error .tooManyDigits else takeNumber (some m) rest

/-- The fill character and the alignment at the beginning of a format, and whether each is there.
-/
def takeAlign : List Char → Option Char × Option Char × List Char
  | f :: a :: rest =>
    if isAlign a then (some f, some a, rest)
    else if isAlign f then (none, some f, a :: rest)
    else (none, none, f :: a :: rest)
  | [a] => if isAlign a then (none, some a, []) else (none, none, [a])
  | [] => (none, none, [])

/-- Take a character off the beginning of a text if it is one of the given ones. -/
def takeOne (wanted : List Char) : List Char → Option Char × List Char
  | c :: rest => if wanted.contains c then (some c, rest) else (none, c :: rest)
  | [] => (none, [])

/-- The separators of thousands: one comma or one underscore, and not both. -/
def takeSeparator (cs : List Char) : Except TemplateError (Option Char × List Char) :=
  let (comma, rest) := takeOne [','] cs
  let (score, rest) := takeOne ['_'] rest
  if comma.isSome && score.isSome then .error .twoSeparators
  else if score.isSome && rest.head? = some ',' then .error .twoSeparators
  else .ok (comma <|> score, rest)

/-- The precision: a point and a number. -/
def takePrecision : List Char → Except TemplateError (Option Nat × List Char)
  | '.' :: rest => do
    let (n, rest) ← takeNumber none rest
    if n.isNone then .error .missingPrecision else .ok (n, rest)
  | rest => .ok (none, rest)

def allowsSeparator (separator kind : Char) : Bool :=
  "defgEG%F".toList.contains kind || (separator = '_' && "boxX".toList.contains kind)

def read (cs : List Char) : Except TemplateError Format := do
  let (fill, align, rest) := takeAlign cs
  let (sign, rest) := takeOne [' ', '+', '-'] rest
  let (zero, rest) := takeOne ['z'] rest
  let (alternate, rest) := takeOne ['#'] rest
  let (padding, rest) := if fill.isSome then (none, rest) else takeOne ['0'] rest
  let (width, rest) ← takeNumber none rest
  let (separator, rest) ← takeSeparator rest
  let (precision, rest) ← takePrecision rest
  let kind ←
    match rest with
    | [] => .ok 's'
    | [k] => .ok k
    | _ => .error (.invalidFormat (String.ofList cs))
  match separator with
  | some s => if !allowsSeparator s kind then .error (.separatorFor s kind)
  | none => pure ()
  return {
    fill := fill.getD (padding.getD ' ')
    align := align.getD '<'
    sign, coerceZero := zero.isSome, alternate := alternate.isSome
    width, separator, precision, kind }

/-- Refuse what texts do not have. -/
def check (f : Format) : Except TemplateError Unit :=
  if f.kind ≠ 's' then .error (.unknownKind f.kind)
  else if f.sign = some ' ' then .error .spaceForText
  else if f.sign.isSome then .error .signForText
  else if f.coerceZero then .error .zeroForText
  else if f.alternate then .error .alternateForText
  else if f.align = '=' then .error .signPaddingForText
  else .ok ()

/-- Lay a text out: cut it to the precision and pad it to the width. -/
def layout (f : Format) (text : List Char) : List Char :=
  let cut := match f.precision with
    | some n => text.take n
    | none => text
  let missing := f.width.getD 0 - cut.length
  let left :=
    if f.align = '>' then missing
    else if f.align = '^' then missing / 2
    else 0
  List.replicate left f.fill ++ cut ++ List.replicate (missing - left) f.fill

/-- Lay a text out as a written format says; the empty format leaves it as it is. -/
def apply (format text : List Char) : Except TemplateError (List Char) :=
  if format.isEmpty then .ok text
  else do
    let f ← read format
    f.check
    return f.layout text

end Format

end ValueSpec
