namespace ValueSpec.Text

/-- The parts of a text between the separators. -/
def fields (separator : Char) : List Char → List (List Char)
  | [] => [[]]
  | c :: rest =>
    if c = separator then [] :: fields separator rest
    else
      match fields separator rest with
      | [] => [[c]]
      | f :: fs => (c :: f) :: fs

/-- The text before the first separator and the text after it. -/
def cutFirst? (separator : Char) : List Char → Option (List Char × List Char)
  | [] => none
  | c :: rest =>
    if c = separator then some ([], rest)
    else (cutFirst? separator rest).map fun (before, after) => (c :: before, after)

/-- The text up to the first separator, or the whole text. -/
def beforeFirst (separator : Char) (cs : List Char) : List Char := cs.takeWhile (· ≠ separator)

/-- The text after the last separator, or the whole text. -/
def afterLast (separator : Char) (cs : List Char) : List Char :=
  (cs.reverse.takeWhile (· ≠ separator)).reverse

end ValueSpec.Text
