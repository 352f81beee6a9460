import ValueSpec.Text.Fields

/-!
# Internet addresses

An address of version four is four numbers below 256 between points. One of version six is eight
groups of hexadecimal digits between colons; one run of groups that are zero may be left out
between two colons, and the last two groups may be written as an address of version four. After a
per cent sign it may name a scope.
-/

namespace ValueSpec.Net

/-- The versions of addresses. -/
inductive AddressVersion
  | four
  | six
  deriving DecidableEq, Repr

def isOctet (cs : List Char) : Bool :=
  !cs.isEmpty && cs.all Char.isDigit && cs.length ≤ 3 && (cs = ['0'] || cs.head? ≠ some '0') &&
    cs.foldl (fun n c => 10 * n + (c.toNat - '0'.toNat)) 0 ≤ 255

def isV4 (cs : List Char) : Bool :=
  let octets := Text.fields '.' cs
  octets.length = 4 && octets.all isOctet

def isHex (c : Char) : Bool := c.isDigit || ('a' ≤ c && c ≤ 'f') || ('A' ≤ c && c ≤ 'F')

/-- Is the text a group of version six? -/
def isGroup (cs : List Char) : Bool := !cs.isEmpty && cs.length ≤ 4 && cs.all isHex

/-- The groups of a text; an address of version four in the last place counts as two. -/
def groups? (cs : List Char) : Option (List (List Char)) :=
  let parts := Text.fields ':' cs
  match parts.getLast? with
  | some last =>
    if last.contains '.' then
      if isV4 last then some (parts.dropLast ++ [['0'], ['0']]) else none
    else some parts
  | none => none

/-- The groups at one side of a run that is left out; there may be none. -/
def sideGroups (side : List (List Char)) : List (List Char) := if side = [[]] then [] else side

/-- Do the groups make up an address of version six? An empty group that is neither first nor last
stands for a run that is left out, of which there is at most one. -/
def isGroups (parts : List (List Char)) : Bool :=
  let inner := parts.tail.dropLast
  match inner.findIdx? List.isEmpty with
  | none => parts.length = 8 && parts.all isGroup
  | some i =>
    let left := sideGroups (parts.take (i + 1))
    let right := sideGroups (parts.drop (i + 2))
    left.length + right.length ≤ 7 && left.all isGroup && right.all isGroup

/-- The address and the scope after a first per cent sign; a scope is not empty and has no such
sign. -/
def withoutScope? (cs : List Char) : Option (List Char) :=
  match Text.cutFirst? '%' cs with
  | none => some cs
  | some (address, scope) => if scope.isEmpty || scope.contains '%' then none else some address

def isV6 (cs : List Char) : Bool :=
  !cs.contains '/' && ((withoutScope? cs).bind groups?).any isGroups

/-- The version of an address; `none` if the text is no address. -/
def addressVersion? (cs : List Char) : Option AddressVersion :=
  if isV4 cs then some .four else if isV6 cs then some .six else none

end ValueSpec.Net
