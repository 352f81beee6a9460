namespace ValueSpec.Net

def isLocalChar (c : Char) : Bool :=
  c.isAlphanum || c = '.' || c = '_' || c = '%' || c = '+' || c = '-'

def isDomainChar (c : Char) : Bool := c.isAlphanum || c = '.' || c = '-'

/-- Where a pass over a domain is. -/
inductive DomainPlace
  /-- At the beginning. -/
  | start
  /-- Inside, and not among letters after a point. -/
  | inside
  /-- After a point and a number of letters; two stands for all larger numbers. -/
  | letters (n : Nat)
  deriving DecidableEq, Repr

/-- The place after one more character, if it may come there. -/
def DomainPlace.step? (p : DomainPlace) (c : Char) : Option DomainPlace :=
  if !isDomainChar c then none
  else
    match p with
    | start => some inside
    | inside => if c = '.' then some (letters 0) else some inside
    | letters n =>
      if c = '.' then some (letters 0)
      else if c.isAlpha then some (letters (min (n + 1) 2))
      else some inside

/-- Can the rest of a domain be read from a place on? -/
def DomainPlace.accepts : DomainPlace → List Char → Bool
  | p, [] => p = letters 2
  | p, c :: rest =>
    match p.step? c with
    | some q => q.accepts rest
    | none => false

/-- Can the rest of a mail address be read? `begun` says whether the local part has a character. -/
def acceptsMail (begun : Bool) : List Char → Bool
  | [] => false
  | c :: rest =>
    if c = '@' then begun && DomainPlace.start.accepts rest
    else isLocalChar c && acceptsMail true rest

def isEmail (cs : List Char) : Bool := acceptsMail false cs

end ValueSpec.Net
