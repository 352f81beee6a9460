import Mathlib.Tactic.SplitIfs
import Mathlib.Tactic.Lemma
import ValueSpec.Template.Format

namespace ValueSpec.Format

/-! ### Numbers -/

/-- The number that digits make when they are put behind a number. -/
def numberFrom (n : Nat) (cs : List Char) : Nat :=
  cs.foldl (fun n c => 10 * n + (Text.digitValue? c).getD 0) n

lemma le_numberFrom (n : Nat) (cs : List Char) : n ≤ numberFrom n cs := by
  induction cs generalizing n with
  | nil => exact Nat.le_refl n
  | cons c cs ih =>
    have hstep := ih (10 * n + (Text.digitValue? c).getD 0)
    rw [numberFrom, List.foldl_cons, ← numberFrom]
    omega

/-- Digits are read up to what is no digit, unless they make too large a number. -/
lemma takeNumber_append {cs : List Char} (hdigits : ∀ c ∈ cs, Text.isDigit c) {rest : List Char}
    (hrest : ∀ c ∈ rest.head?, Text.isDigit c = false) {n : Option Nat}
    (hlimit : numberFrom (n.getD 0) cs ≤ numberLimit) :
    takeNumber n (cs ++ rest) =
      .ok (if cs = [] then n else some (numberFrom (n.getD 0) cs), rest) := by
  induction cs generalizing n with
  | nil =>
    cases rest with
    | nil => rfl
    | cons c rest =>
      have hc : Text.digitValue? c = none := by simpa [Text.isDigit] using hrest c rfl
      simp [takeNumber, hc]
  | cons c cs ih =>
    obtain ⟨hc, hcs⟩ := List.forall_mem_cons.mp hdigits
    obtain ⟨d, hd⟩ := Option.isSome_iff_exists.mp hc
    have hnumber : numberFrom (n.getD 0) (c :: cs) = numberFrom (10 * n.getD 0 + d) cs := by
      rw [numberFrom, List.foldl_cons, hd]
      rfl
    rw [hnumber] at hlimit ⊢
    -- numbers grow with their digits, so what holds of the last one holds of those on the way
    have hstep : 10 * n.getD 0 + d ≤ numberLimit := Nat.le_trans (le_numberFrom _ cs) hlimit
    rw [List.cons_append, takeNumber, hd]
    dsimp only
    rw [if_neg (Nat.not_lt.mpr hstep), ih (n := some (10 * n.getD 0 + d)) hcs hlimit,
      if_neg (List.cons_ne_nil c cs)]
    split_ifs with hnil
    · rw [hnil]
      rfl
    · rfl

/-- A number as it is written in a format. -/
structure Numeral where
  digits : List Char
  ne_nil : digits ≠ []
  isDigit : digits.all Text.isDigit
  limit : numberFrom 0 digits ≤ numberLimit

/-- The number that is written. -/
def Numeral.value (n : Numeral) : Nat := numberFrom 0 n.digits

lemma Numeral.isDigit_of_mem (n : Numeral) : ∀ c ∈ n.digits, Text.isDigit c :=
  List.all_eq_true.mp n.isDigit

lemma Numeral.takeNumber (n : Numeral) {rest : List Char}
    (hrest : ∀ c ∈ rest.head?, Text.isDigit c = false) :
    Format.takeNumber none (n.digits ++ rest) = .ok (some n.value, rest) := by
  rw [takeNumber_append (n := none) n.isDigit_of_mem hrest n.limit, if_neg n.ne_nil]
  rfl

/-! ### Layouts -/

/-- Where a text stands in a width that is greater than its length. -/
inductive Side
  | left
  | right
  | center

/-- The character that names a side. -/
def Side.char : Side → Char
  | left => '<'
  | right => '>'
  | center => '^'

/-- An alignment as it is written. A brace cannot fill a width, for it would end the field or begin
one. -/
inductive Alignment
  | usual
  | side (s : Side)
  | filled (fill : Char) (s : Side) (hopen : fill ≠ '\x7b') (hclose : fill ≠ '\x7d')

namespace Alignment

/-- The character that fills the width, if one is given. -/
def fill? : Alignment → Option Char
  | usual | side _ => none
  | filled fill .. => some fill

/-- The character that names the side, if one is given. -/
def char? : Alignment → Option Char
  | usual => none
  | side s | filled _ s .. => some s.char

/-- No text is padded behind a sign. -/
lemma char?_ne_padding (a : Alignment) : a.char?.getD '<' ≠ '=' := by
  have hside (s : Side) : s.char ≠ '=' := by cases s <;> decide
  cases a with
  | usual => decide
  | side s => exact hside s
  | filled _ s => exact hside s

/-- An alignment in a format. -/
def written (a : Alignment) : List Char := a.fill?.toList ++ a.char?.toList

lemma ne_brace_of_mem_written {a : Alignment} {c : Char} (h : c ∈ a.written) :
    c ≠ '\x7b' ∧ c ≠ '\x7d' := by
  have hside (s : Side) : s.char ≠ '\x7b' ∧ s.char ≠ '\x7d' := by cases s <;> decide
  cases a with
  | usual => cases h
  | side s =>
    obtain rfl : c = s.char := List.mem_singleton.mp h
    exact hside s
  | filled fill s hopen hclose =>
    obtain rfl | rfl : c = fill ∨ c = s.char := by simpa [written, fill?, char?] using h
    · exact ⟨hopen, hclose⟩
    · exact hside s

end Alignment

/-- The layout of a text as it is written. -/
structure Layout where
  alignment : Alignment := .usual
  width : Option Numeral := none
  precision : Option Numeral := none
  /-- Is the letter for texts written? -/
  letter : Bool := false

namespace Layout

variable (l : Layout)

/-- The digits of the width. -/
def digits : List Char := l.width.elim [] Numeral.digits

/-- What stands behind the width. -/
def tail : List Char :=
  l.precision.elim [] (fun n => '.' :: n.digits) ++ if l.letter then ['s'] else []

/-- A layout in a template. -/
def written : List Char := l.alignment.written ++ (l.digits ++ l.tail)

/-- The character that fills the width. If none is given a zero before the width is one. -/
def fill : Char := l.alignment.fill?.getD (if l.digits.head? = some '0' then '0' else ' ')

/-- The format that a layout means. -/
def format : Format where
  fill := l.fill
  align := l.alignment.char?.getD '<'
  width := l.width.map Numeral.value
  precision := l.precision.map Numeral.value

/-! ### Reading layouts -/

/-- Behind an alignment a layout has digits, a point and the letter for texts. -/
def isInner (c : Char) : Bool := Text.isDigit c || c = '.' || c = 's'

lemma isInner_of_mem {c : Char} (h : c ∈ l.digits ++ l.tail) : isInner c := by
  have hnumeral (n : Numeral) (h : c ∈ n.digits) : isInner c := by
    rw [isInner, n.isDigit_of_mem c h]
    rfl
  obtain ⟨alignment, width, precision, letter⟩ := l
  simp only [digits, tail, List.mem_append] at h
  rcases h with h | h | h
  · cases width with
    | none => cases h
    | some n => exact hnumeral n h
  · cases precision with
    | none => cases h
    | some n =>
      obtain rfl | h := List.mem_cons.mp h
      · rfl
      · exact hnumeral n h
  · cases letter with
    | false => cases h
    | true =>
      obtain rfl := List.mem_singleton.mp h
      rfl

/-- Marks that a layout has in its alignment or not at all. -/
def marks : List Char := ['\x7b', '\x7d', '<', '>', '=', '^', ' ', '+', '-', 'z', '#', ',', '_']

lemma not_mem_marks {c : Char} (h : c ∈ l.digits ++ l.tail) : c ∉ marks := by
  have hmarks : marks.all (!isInner ·) := by decide
  intro hc
  have hother := List.all_eq_true.mp hmarks c hc
  rw [l.isInner_of_mem h] at hother
  cases hother

/-- A layout has no braces, which would end its field or begin another one. -/
lemma ne_brace_of_mem_written {c : Char} (h : c ∈ l.written) : c ≠ '\x7b' ∧ c ≠ '\x7d' := by
  obtain h | h := List.mem_append.mp h
  · exact Alignment.ne_brace_of_mem_written h
  · have hmarks := l.not_mem_marks h
    simp only [marks, List.mem_cons, not_or] at hmarks
    exact ⟨hmarks.1, hmarks.2.1⟩

end Layout

lemma takeOne_of_not_mem {wanted cs : List Char} (h : ∀ c ∈ cs.head?, c ∉ wanted) :
    takeOne wanted cs = (none, cs) := by
  cases cs with
  | nil => rfl
  | cons c cs => simpa [takeOne] using h c rfl

lemma takeAlign_append (a : Alignment) {rest : List Char}
    (h : ∀ c ∈ rest, isAlign c = false) :
    takeAlign (a.written ++ rest) = (a.fill?, a.char?, rest) := by
  have hside (s : Side) : isAlign s.char := by cases s <;> rfl
  cases a with
  | usual =>
    show takeAlign rest = (none, none, rest)
    rcases rest with _ | ⟨c, _ | ⟨d, rest⟩⟩ <;> simp_all [takeAlign]
  | side s =>
    show takeAlign (s.char :: rest) = (none, some s.char, rest)
    cases rest <;> simp_all [takeAlign]
  | filled fill s =>
    show takeAlign (fill :: s.char :: rest) = (some fill, some s.char, rest)
    simp [takeAlign, hside]

/-- Digits up to what is no digit make a number, which is zero if there are none. -/
lemma exists_takeNumber {cs : List Char} (hdigits : ∀ c ∈ cs, Text.isDigit c)
    (hlimit : numberFrom 0 cs ≤ numberLimit) {rest : List Char}
    (hrest : ∀ c ∈ rest.head?, Text.isDigit c = false) :
    ∃ n, takeNumber none (cs ++ rest) = .ok (n, rest) ∧ n.getD 0 = numberFrom 0 cs := by
  refine ⟨_, takeNumber_append (n := none) hdigits hrest hlimit, ?_⟩
  split_ifs with hnil
  · rw [hnil]
    rfl
  · rfl

namespace Layout

variable (l : Layout)

lemma isDigit_digits : ∀ c ∈ l.digits, Text.isDigit c := by
  rw [digits]
  cases l.width with
  | none => exact nofun
  | some n => exact n.isDigit_of_mem

lemma numberFrom_digits :
    numberFrom 0 l.digits = l.format.width.getD 0 ∧ numberFrom 0 l.digits ≤ numberLimit := by
  rw [digits, format]
  cases l.width with
  | none => exact ⟨rfl, Nat.zero_le _⟩
  | some n => exact ⟨rfl, n.limit⟩

/-- A zero before the width fills it, unless another character does. -/
lemma takeNumber_digits {rest : List Char} (hrest : ∀ c ∈ rest.head?, Text.isDigit c = false) :
    ∃ padding digits width,
      (if l.alignment.fill?.isSome then (none, l.digits ++ rest)
        else takeOne ['0'] (l.digits ++ rest)) = (padding, digits) ∧
      takeNumber none digits = .ok (width, rest) ∧
      l.alignment.fill?.getD (padding.getD ' ') = l.fill ∧
      width.getD 0 = l.format.width.getD 0 := by
  have hdigits := l.isDigit_digits
  obtain ⟨hvalue, hlimit⟩ := l.numberFrom_digits
  rw [fill, ← hvalue]
  generalize l.digits = ds at hdigits hlimit ⊢
  obtain ⟨width, hwidth, hvalue⟩ := exists_takeNumber hdigits hlimit hrest
  cases l.alignment.fill? with
  | some fill => exact ⟨none, _, width, rfl, hwidth, rfl, hvalue⟩
  | none =>
    by_cases hzero : ds.head? = some '0'
    · obtain ⟨ds, rfl⟩ := List.head?_eq_some_iff.mp hzero
      obtain ⟨width, hwidth, hvalue⟩ :=
        exists_takeNumber (List.forall_mem_cons.mp hdigits).2 hlimit hrest
      exact ⟨some '0', _, width, rfl, hwidth, rfl, hvalue⟩
    · refine ⟨none, _, width, takeOne_of_not_mem ?_, hwidth, ?_, hvalue⟩
      · rintro c hc hmem
        obtain rfl := List.mem_singleton.mp hmem
        cases ds with
        | nil => exact absurd (hrest _ hc) (by decide)
        | cons d ds => exact hzero hc
      · simp [hzero]

lemma isDigit_head?_tail : ∀ c ∈ l.tail.head?, Text.isDigit c = false := by
  obtain ⟨alignment, width, precision, letter⟩ := l
  have hother : Text.isDigit '.' = false ∧ Text.isDigit 's' = false := by decide
  cases precision <;> cases letter <;> simp [tail, hother]

lemma takePrecision_tail :
    takePrecision l.tail = .ok (l.format.precision, if l.letter then ['s'] else []) := by
  obtain ⟨alignment, width, precision, letter⟩ := l
  cases precision with
  | none => cases letter <;> rfl
  | some n =>
    have hletter : ∀ c ∈ (if letter then ['s'] else []).head?, Text.isDigit c = false := by
      cases letter <;> simp; decide
    have htail : tail ⟨alignment, width, some n, letter⟩ =
        '.' :: (n.digits ++ if letter then ['s'] else []) := rfl
    rw [htail, takePrecision, n.takeNumber hletter]
    rfl

lemma takeAlign_written :
    takeAlign l.written = (l.alignment.fill?, l.alignment.char?, l.digits ++ l.tail) := by
  refine takeAlign_append _ fun c hc => ?_
  rw [Bool.eq_false_iff]
  intro halign
  simp only [isAlign, Bool.or_eq_true, decide_eq_true_eq] at halign
  refine l.not_mem_marks hc ?_
  obtain ((rfl | rfl) | rfl) | rfl := halign <;> decide

lemma takeOne_marks {wanted : List Char} (hwanted : wanted.all marks.contains) {cs : List Char}
    (h : ∀ c ∈ cs, c ∈ l.digits ++ l.tail) : takeOne wanted cs = (none, cs) := by
  refine takeOne_of_not_mem fun c hc hmem => ?_
  have hmarks : c ∈ marks := by simpa using List.all_eq_true.mp hwanted c hmem
  exact l.not_mem_marks (h c (List.mem_of_mem_head? hc)) hmarks

lemma takeSeparator_tail : takeSeparator l.tail = .ok (none, l.tail) := by
  have hmem : ∀ c ∈ l.tail, c ∈ l.digits ++ l.tail := fun _ => List.mem_append_right _
  have hcomma : takeOne [','] l.tail = (none, l.tail) := l.takeOne_marks (by decide) hmem
  have hscore : takeOne ['_'] l.tail = (none, l.tail) := l.takeOne_marks (by decide) hmem
  rw [takeSeparator, hcomma]
  dsimp only
  rw [hscore]
  rfl

/-- A layout is read as the format that it means, but for a width that is zero or none. -/
lemma read_written : ∃ width, read l.written = .ok { l.format with width } ∧
    width.getD 0 = l.format.width.getD 0 := by
  obtain ⟨padding, digits, width, hpadding, hwidth, hfill, hvalue⟩ :=
    l.takeNumber_digits l.isDigit_head?_tail
  have hsign : takeOne [' ', '+', '-'] (l.digits ++ l.tail) = (none, l.digits ++ l.tail) :=
    l.takeOne_marks (by decide) fun _ => id
  have hzero : takeOne ['z'] (l.digits ++ l.tail) = (none, l.digits ++ l.tail) :=
    l.takeOne_marks (by decide) fun _ => id
  have halternate : takeOne ['#'] (l.digits ++ l.tail) = (none, l.digits ++ l.tail) :=
    l.takeOne_marks (by decide) fun _ => id
  refine ⟨width, ?_, hvalue⟩
  -- the parts of a format in the order in which they are read
  rw [read, l.takeAlign_written]
  dsimp only
  rw [hsign]
  dsimp only
  rw [hzero]
  dsimp only
  rw [halternate]
  dsimp only
  rw [hpadding]
  dsimp only
  rw [hwidth]
  dsimp only [bind, Except.bind]
  rw [l.takeSeparator_tail]
  dsimp only
  rw [l.takePrecision_tail]
  dsimp only
  rw [hfill]
  cases l.letter <;> rfl

/-- A layout with nothing in it leaves a text as it is. -/
lemma layout_of_written_eq_nil (h : l.written = []) (text : List Char) :
    l.format.layout text = text := by
  rw [written, List.append_eq_nil_iff, List.append_eq_nil_iff] at h
  obtain ⟨-, hdigits, htail⟩ := h
  have hwidth : l.format.width.getD 0 = 0 := by
    rw [← l.numberFrom_digits.1, hdigits]
    rfl
  have hprecision : l.format.precision = none := by
    rw [tail, List.append_eq_nil_iff] at htail
    rw [format]
    cases hprecision : l.precision with
    | none => rfl
    | some n => simp [hprecision] at htail
  simp [layout, hwidth, hprecision]

/-- A text can always be laid out, and then it is as the format says that the layout means. -/
theorem apply_written (text : List Char) :
    Format.apply l.written text = .ok (l.format.layout text) := by
  rw [Format.apply]
  split_ifs with hempty
  · rw [l.layout_of_written_eq_nil (by simpa using hempty)]
  · obtain ⟨width, hread, hwidth⟩ := l.read_written
    have hcheck : check { l.format with width } = .ok () := by
      have halign : l.format.align ≠ '=' := l.alignment.char?_ne_padding
      simp only [check, if_neg halign]
      rfl
    have hlayout : layout { l.format with width } text = l.format.layout text := by
      simp only [layout, hwidth]
    rw [hread, ← hlayout]
    dsimp only [bind, Except.bind]
    rw [hcheck]
    rfl

lemma fill_ne_brace : l.fill ≠ '\x7b' ∧ l.fill ≠ '\x7d' := by
  have husual (b : Prop) [Decidable b] :
      (if b then '0' else ' ') ≠ '\x7b' ∧ (if b then '0' else ' ') ≠ '\x7d' := by
    split_ifs <;> decide
  rw [fill]
  cases l.alignment with
  | usual => exact husual _
  | side _ => exact husual _
  | filled fill _ hopen hclose => exact ⟨hopen, hclose⟩

/-- If a text that has been laid out begins and ends with braces, nothing has been filled in, and
so it is the beginning of the text. -/
lemma prefix_of_layout {text inner : List Char}
    (h : l.format.layout text = '\x7b' :: (inner ++ ['\x7d'])) :
    '\x7b' :: (inner ++ ['\x7d']) <+: text := by
  obtain ⟨hopen, hclose⟩ := l.fill_ne_brace
  have hcut : ∃ cut left right, cut <+: text ∧ l.format.layout text =
      List.replicate left l.fill ++ cut ++ List.replicate right l.fill := by
    rw [layout]
    cases l.format.precision with
    | none => exact ⟨text, _, _, List.prefix_rfl, rfl⟩
    | some n => exact ⟨text.take n, _, _, List.take_prefix n text, rfl⟩
  obtain ⟨cut, left, right, hstart, hlayout⟩ := hcut
  rw [hlayout] at h
  obtain rfl : left = 0 := by
    cases left with
    | zero => rfl
    | succ left => exact absurd (List.cons.inj h).1 hopen
  obtain rfl : right = 0 := by
    cases right with
    | zero => rfl
    | succ right =>
      rw [List.replicate_succ', ← List.append_assoc, ← List.cons_append] at h
      exact absurd (List.singleton_inj.mp (List.append_inj_right' h rfl)) hclose
  simpa [← h] using hstart

end Layout

end ValueSpec.Format
