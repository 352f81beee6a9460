import ValueSpec.Net.Address
import ValueSpec.Text.Case
import ValueSpec.Text.Quoted

/-!
# Web addresses

Of a web address the scheme and the authority matter here: what stands before a first colon if it
has the form of a scheme, and what stands between two slashes and the next delimiter. The
authority ends with the host, behind an at sign and before a port. An address in brackets must be
one of version six or of a future version. A character that looks like a delimiter when it is
written in its compatible form must not stand in the authority.
-/

namespace ValueSpec.Net

/-- What is wrong with a web address. -/
inductive UrlError
  /-- Brackets that do not enclose the host. -/
  | brackets
  /-- An address of a future version that does not have its form. -/
  | futureAddress
  /-- A host in brackets that is no address. -/
  | noAddress (host : String)
  /-- An address of version four in brackets. -/
  | bracketedV4
  /-- A delimiter in disguise. -/
  | disguised (authority : String)
  deriving DecidableEq, Repr

def UrlError.message : UrlError → String
  | brackets => "Invalid IPv6 URL"
  | futureAddress => "IPvFuture address is invalid"
  | noAddress host => Text.quote host ++ " does not appear to be an IPv4 or IPv6 address"
  | bracketedV4 => "An IPv4 address cannot be in brackets"
  | disguised authority =>
    "netloc '" ++ authority ++ "' contains invalid characters under NFKC normalization"

/-- The parts of a web address that matter. -/
structure Url where
  scheme : List Char
  authority : List Char
  deriving DecidableEq, Repr

namespace Url

/-! ### Cleaning -/

/-- A space or a control character of ASCII, which is dropped at the beginning. -/
def isIgnoredFirst (c : Char) : Bool := c.toNat ≤ 0x20

/-- A character that is dropped everywhere. -/
def isIgnored (c : Char) : Bool := c = '\t' || c = '\r' || c = '\n'

/-- The text without the characters that do not count. -/
def clean (cs : List Char) : List Char := (cs.dropWhile isIgnoredFirst).filter (!isIgnored ·)

/-! ### Parts -/

def isSchemeChar (c : Char) : Bool := c.isAlphanum || c = '+' || c = '-' || c = '.'

def isScheme : List Char → Bool
  | [] => false
  | c :: rest => c.isAlpha && rest.all isSchemeChar

/-- The scheme, in lower case, and the text after its colon; an empty scheme if there is none. -/
def cutScheme (cs : List Char) : List Char × List Char :=
  match Text.cutFirst? ':' cs with
  | some (scheme, rest) => if isScheme scheme then (Text.lowerChars scheme, rest) else ([], cs)
  | none => ([], cs)

def endsAuthority (c : Char) : Bool := c = '/' || c = '?' || c = '#'

def authorityOf : List Char → List Char
  | '/' :: '/' :: rest => rest.takeWhile (!endsAuthority ·)
  | _ => []

/-! ### Checks -/

/-- Does the text have the form of an address of a future version, after its first letter? -/
def isFutureAddress (cs : List Char) : Bool :=
  let digits := cs.takeWhile isHex
  match cs.dropWhile isHex with
  | '.' :: rest => !digits.isEmpty && !rest.isEmpty && !rest.contains '\n'
  | _ => false

/-- A host that stands in brackets must be an address of version six or of a future version. -/
def checkBracketed (host : List Char) : Except UrlError Unit :=
  match host with
  | 'v' :: rest => if isFutureAddress rest then .ok () else .error .futureAddress
  | _ =>
    match addressVersion? host with
    | some .six => .ok ()
    | some .four => .error .bracketedV4
    | none => .error (.noAddress (String.ofList host))

/-- The brackets of an authority enclose its host, which has nothing before it and at most a port
after it. -/
def checkBrackets (authority : List Char) : Except UrlError Unit :=
  match authority.contains '[', authority.contains ']' with
  | false, false => .ok ()
  | true, true =>
    let host := Text.afterLast '@' authority
    match Text.cutFirst? '[' host with
    | none => checkBracketed (Text.beforeFirst ':' host)
    | some (before, bracketed) =>
      let port := ((Text.cutFirst? ']' bracketed).map (·.2)).getD []
      if !before.isEmpty || (!port.isEmpty && port.head? ≠ some ':') then .error .brackets
      else checkBracketed (Text.beforeFirst ']' bracketed)
  | _, _ => .error .brackets

/-- The characters whose compatible form has one of the delimiters `/`, `?`, `#`, `@` and `:`. -/
def disguises : List Nat :=
  [0x2047, 0x2048, 0x2049, 0x2100, 0x2101, 0x2105, 0x2106, 0x2A74, 0xFE13, 0xFE16, 0xFE55, 0xFE56,
   0xFE5F, 0xFE6B, 0xFF03, 0xFF0F, 0xFF1A, 0xFF1F, 0xFF20]

def read (text : String) : Except UrlError Url := do
  let (scheme, rest) := cutScheme (clean text.toList)
  let authority := authorityOf rest
  checkBrackets authority
  if authority.any (disguises.contains ·.toNat) then .error (.disguised (String.ofList authority))
  else return { scheme, authority }

/-- The host: the text in brackets, or what stands before a colon. -/
def host (u : Url) : List Char :=
  let rest := Text.afterLast '@' u.authority
  match Text.cutFirst? '[' rest with
  | some (_, bracketed) => Text.beforeFirst ']' bracketed
  | none => Text.beforeFirst ':' rest

def hasScheme (u : Url) (schemes : List String) : Bool :=
  schemes.any fun s => Text.lowerChars s.toList = Text.lowerChars u.scheme

end Url

end ValueSpec.Net
