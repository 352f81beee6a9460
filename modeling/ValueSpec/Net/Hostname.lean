namespace ValueSpec.Net

def isLabelEnd (c : Char) : Bool := c.isAlphanum

def maxHostname : Nat := 253

/-- Where a pass over a host name is. -/
inductive HostPlace
  /-- At the beginning of a label. -/
  | start
  /-- After a letter or a digit. -/
  | letter
  /-- After a hyphen. -/
  | hyphen
  deriving DecidableEq, Repr

/-- The place after one more character, if it may come there. -/
def HostPlace.step? (p : HostPlace) (c : Char) : Option HostPlace :=
  if isLabelEnd c then some letter
  else
    match p with
    | start => none
    | letter => if c = '-' then some hyphen else if c = '.' then some start else none
    | hyphen => if c = '-' then some hyphen else none

/-- Can the rest of a host name be read from a place on? -/
def HostPlace.accepts : HostPlace → List Char → Bool
  | p, [] => p = letter
  | p, c :: rest =>
    match p.step? c with
    | some q => q.accepts rest
    | none => false

/-- Is a text a host name, whatever its length? -/
def isHostname (cs : List Char) : Bool := HostPlace.start.accepts cs

end ValueSpec.Net
