import ValueSpec.Fault

namespace ValueSpec

/-- A code point: a character, or the surrogate with a number. -/
inductive CodePoint
  | char (c : Char)
  | surrogate (n : Fin 0x800)
  deriving DecidableEq, Repr

namespace CodePoint

def ofString (s : String) : List CodePoint := s.toList.map char

def char? : CodePoint → Option Char
  | char c => some c
  | surrogate _ => none

/-- The text of a value, if it is one. -/
def text? (ps : List CodePoint) : Option String := (ps.mapM char?).map String.ofList

def number : CodePoint → Nat
  | char c => c.toNat
  | surrogate n => 0xD800 + n

def isSurrogate : CodePoint → Bool
  | char _ => false
  | surrogate _ => true

/-- The bytes that a character has in the UTF-8 form of a text. -/
def utf8Size : CodePoint → Nat
  | char c => c.utf8Size
  | surrogate _ => 0

/-- The number of bytes of the UTF-8 form. If there is none, the fault tells the first surrogates
that stand together. -/
def utf8Length (ps : List CodePoint) : Except Fault Nat :=
  if ps.any isSurrogate then
    let rest := ps.dropWhile (!·.isSurrogate)
    .error (.notEncodable (ps.length - rest.length) ((rest.takeWhile isSurrogate).map number))
  else .ok (ps.foldl (fun n p => n + p.utf8Size) 0)

@[simp] theorem length_ofString (s : String) : (ofString s).length = s.length := by
  simp [ofString, String.length_toList]

@[simp] theorem any_isSurrogate_ofString (s : String) : (ofString s).any isSurrogate = false := by
  simp [ofString, isSurrogate]

@[simp] theorem text?_ofString (s : String) : text? (ofString s) = some s := by
  have hchars : ∀ cs : List Char, (cs.map char).mapM char? = some cs := by
    intro cs
    induction cs with
    | nil => rfl
    | cons c cs ih => rw [List.map_cons, List.mapM_cons, ih]; rfl
  rw [text?, ofString, hchars, Option.map_some, String.ofList_toList]

/-- A value is a text unless a surrogate is among its code points. -/
theorem text?_eq_none_iff {ps : List CodePoint} : text? ps = none ↔ ps.any isSurrogate := by
  rw [text?, Option.map_eq_none_iff]
  induction ps with
  | nil => simp
  | cons p ps ih =>
    rw [List.mapM_cons, List.any_cons]
    cases p with
    | char c => cases h : ps.mapM char? <;> simp_all [char?, isSurrogate]
    | surrogate n => simp [char?, isSurrogate]

theorem foldl_utf8Size (cs : List Char) (n : Nat) :
    (cs.map char).foldl (fun n p => n + p.utf8Size) n = n + (String.ofList cs).utf8ByteSize := by
  induction cs generalizing n with
  | nil => rfl
  | cons c cs ih =>
    rw [String.ofList_cons, String.utf8ByteSize_append, String.utf8ByteSize_singleton, List.map_cons,
      List.foldl_cons, ih, Nat.add_assoc]
    rfl

@[simp] theorem utf8Length_ofString (s : String) :
    utf8Length (ofString s) = .ok s.utf8ByteSize := by
  rw [utf8Length, any_isSurrogate_ofString, ofString, foldl_utf8Size, String.ofList_toList,
    Nat.zero_add]
  rfl

theorem exists_utf8Length_eq_error {ps : List CodePoint} (h : ps.any isSurrogate) :
    ∃ f, utf8Length ps = .error f := ⟨_, if_pos h⟩

end CodePoint

end ValueSpec
