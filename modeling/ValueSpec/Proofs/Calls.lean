import ValueSpec.Call
import ValueSpec.Proofs.Unescaped

/-!
# The grammar of calls

A text with an unescaped parenthesis is a call if there is a name before the first of them and a
closing parenthesis at the end; any other text is a name, if it is not empty and has no unescaped
colon. What a text is taken apart into is determined by the place of that parenthesis, and a name
and the text of its arguments can be put together again.
-/

namespace ValueSpec

namespace Call

variable (shapeOf : String → ArgShape)

/-- A text that names something before an index and is closed at the end is the call with the name
before the index and the arguments after it. -/
structure OpenedAt (cs : List Char) (i : Nat) (call : Call) : Prop where
  named : ¬ (cs.take i).all Text.isBlank
  closed : cs.getLast? = some ')'
  name : call.name = String.ofList (Text.stripChars (cs.take i))
  rawArgs : call.rawArgs = String.ofList (cs.drop (i + 1)).dropLast
  args : call.args = (shapeOf call.name).split call.rawArgs

/-- Blanks around a spec do not matter. -/
lemma parse_congr {s s' : String} (h : Text.strip s = Text.strip s') :
    parse shapeOf s = parse shapeOf s' := by
  simp only [parse, h]

section

variable {text : String} {cs : List Char}

/-- A text with an unescaped parenthesis is read around the first of them. -/
lemma parse_of_opened (hcs : Text.strip text = String.ofList cs) {i : Nat}
    (h : FirstUnescaped '(' cs i) :
    parse shapeOf text =
      if (cs.take i).all Text.isBlank then
        .error (.malformed (String.ofList cs) .missingName none)
      else if cs.getLast? ≠ some ')' then
        .error (.malformed (String.ofList cs) .missingClose none)
      else
        let name := String.ofList (Text.stripChars (cs.take i))
        let rawArgs := String.ofList (cs.drop (i + 1)).dropLast
        .ok { name, rawArgs, args := (shapeOf name).split rawArgs } := by
  have hindex : findUnescaped? (String.ofList cs) '(' = some i := by
    rwa [findUnescaped?_eq_some_iff (by decide), String.toList_ofList]
  have hname : String.ofList (Text.stripChars (cs.take i)) = "" ↔
      (cs.take i).all Text.isBlank := by
    rw [List.all_eq_true, ← Text.stripChars_eq_nil_iff, ← String.toList_eq_nil_iff,
      String.toList_ofList]
  rw [parse, hcs, hindex]
  dsimp only
  rw [String.toList_ofList, if_congr hname rfl rfl]

/-- A text without an unescaped parenthesis is read as a name. -/
lemma parse_of_not_opened (hcs : Text.strip text = String.ofList cs)
    (h : ∀ i, ¬ Unescaped '(' cs i) :
    parse shapeOf text =
      if (findUnescaped? (String.ofList cs) ':').isSome then
        .error (.colonSyntax (String.ofList cs))
      else if cs = [] then .error (.malformed (String.ofList cs) .missingName none)
      else .ok { name := String.ofList cs } := by
  have hindex : findUnescaped? (String.ofList cs) '(' = none := by
    rwa [findUnescaped?_eq_none_iff (by decide), String.toList_ofList]
  have hempty : String.ofList cs = "" ↔ cs = [] := by
    rw [← String.toList_eq_nil_iff, String.toList_ofList]
  rw [parse, hcs, hindex]
  dsimp only
  rw [if_congr hempty rfl rfl]

lemma isSome_findUnescaped?_colon :
    (findUnescaped? (String.ofList cs) ':').isSome ↔ ∃ i, Unescaped ':' cs i := by
  rw [← not_iff_not, Bool.not_eq_true, Option.isSome_eq_false_iff, Option.isNone_iff_eq_none,
    findUnescaped?_eq_none_iff (by decide), String.toList_ofList, not_exists]

end

/-! ### Names and arguments put together -/

section

variable {w : List Char}

/-- A name in which no parenthesis opens, and anything between parentheses after it. Blanks between
the name and the parenthesis are dropped. -/
lemma parse_padded_args (hne : Text.stripChars w ≠ []) (hleft : Text.stripLeft w = w)
    (hopen : ∀ i, ¬ Unescaped '(' w i) (heven : backslashesBefore w w.length % 2 = 0)
    (raw : List Char) :
    parse shapeOf (String.ofList (w ++ '(' :: (raw ++ [')']))) =
      .ok { name := String.ofList (Text.stripChars w)
            rawArgs := String.ofList raw
            args := (shapeOf (String.ofList (Text.stripChars w))).split (String.ofList raw) } := by
  have hlast : (w ++ '(' :: (raw ++ [')'])).getLast? = some ')' := by
    rw [← List.cons_append, ← List.append_assoc, List.getLast?_concat]
  have hright : Text.stripRight (raw ++ [')']) = raw ++ [')'] :=
    List.rdropWhile_concat_neg _ _ _ (by decide)
  have hstripped : Text.strip (String.ofList (w ++ '(' :: (raw ++ [')']))) =
      String.ofList (w ++ '(' :: (raw ++ [')'])) := by
    rw [Text.strip, String.toList_ofList, Text.stripChars_append_cons (by decide), hleft, hright]
  have hnamed : ¬ w.all Text.isBlank := by
    rwa [List.all_eq_true, ← Text.stripChars_eq_nil_iff]
  have hdrop : ((w ++ '(' :: (raw ++ [')'])).drop (w.length + 1)).dropLast = raw := by
    simp
  rw [parse_of_opened shapeOf hstripped (.of_append hopen heven _), List.take_left,
    if_neg hnamed, if_neg (not_not.mpr hlast), hdrop]

/-- Blanks before a name are dropped as well. -/
lemma parse_padded_call (hne : Text.stripChars w ≠ []) (hopen : '(' ∉ w) (hescape : '\\' ∉ w)
    (raw : List Char) :
    parse shapeOf (String.ofList (w ++ '(' :: (raw ++ [')']))) =
      .ok { name := String.ofList (Text.stripChars w)
            rawArgs := String.ofList raw
            args := (shapeOf (String.ofList (Text.stripChars w))).split (String.ofList raw) } := by
  have hsubset : Text.stripLeft w ⊆ w := (List.dropWhile_suffix _).subset
  have hleft : Text.stripLeft (Text.stripLeft w) = Text.stripLeft w :=
    List.dropWhile_idempotent _ _
  have hstrip : Text.strip (String.ofList (w ++ '(' :: (raw ++ [')']))) =
      Text.strip (String.ofList (Text.stripLeft w ++ '(' :: (raw ++ [')']))) := by
    have hblank : Text.isBlank '(' = false := by decide
    simp only [Text.strip, String.toList_ofList, Text.stripChars_append_cons hblank, hleft]
  have heven : backslashesBefore (Text.stripLeft w) (Text.stripLeft w).length % 2 = 0 := by
    rw [backslashesBefore_eq_zero fun hmem => hescape (hsubset hmem)]
  rw [← Text.stripChars_stripLeft] at hne ⊢
  rw [parse_congr shapeOf hstrip]
  exact parse_padded_args shapeOf hne hleft (fun _ h => hopen (hsubset h.mem)) heven raw

end

section

variable {w : List Char} (hne : w ≠ []) (hstrip : Text.stripChars w = w)

include hne hstrip

/-- A name in which no parenthesis opens, and anything between parentheses after it. -/
lemma parse_name_args (hopen : ∀ i, ¬ Unescaped '(' w i)
    (heven : backslashesBefore w w.length % 2 = 0) (raw : List Char) :
    parse shapeOf (String.ofList (w ++ '(' :: (raw ++ [')']))) =
      .ok { name := String.ofList w
            rawArgs := String.ofList raw
            args := (shapeOf (String.ofList w)).split (String.ofList raw) } := by
  have hleft : Text.stripLeft w = w := by
    obtain ⟨c, rest, rfl⟩ := List.exists_cons_of_ne_nil hne
    have hhead := @Text.head?_stripChars_not_blank (c :: rest)
    rw [hstrip] at hhead
    exact List.dropWhile_cons_of_neg (by simp [hhead c rfl])
  have hparse := parse_padded_args shapeOf (by rwa [hstrip]) hleft hopen heven raw
  rwa [hstrip] at hparse

/-- A name without parentheses, and anything between parentheses after it. -/
lemma parse_call (hopen : '(' ∉ w) (hescape : '\\' ∉ w) (raw : List Char) :
    parse shapeOf (String.ofList (w ++ '(' :: (raw ++ [')']))) =
      .ok { name := String.ofList w
            rawArgs := String.ofList raw
            args := (shapeOf (String.ofList w)).split (String.ofList raw) } := by
  have heven : backslashesBefore w w.length % 2 = 0 := by
    rw [backslashesBefore_eq_zero hescape]
  exact parse_name_args shapeOf hne hstrip (fun _ h => hopen h.mem) heven raw

/-- A name without parentheses and colons is a call without arguments. -/
lemma parse_name (hopen : '(' ∉ w) (hcolon : ':' ∉ w) :
    parse shapeOf (String.ofList w) = .ok { name := String.ofList w } := by
  have hstripped : Text.strip (String.ofList w) = String.ofList w := by
    rw [Text.strip, String.toList_ofList, hstrip]
  have hnocolon : ¬ (findUnescaped? (String.ofList w) ':').isSome := by
    rw [isSome_findUnescaped?_colon]
    rintro ⟨i, hi⟩
    exact hcolon hi.mem
  rw [parse_of_not_opened shapeOf hstripped fun _ h => hopen h.mem, if_neg hnocolon, if_neg hne]

end

/-! ### The grammar -/

section

variable {text : String} {cs : List Char}

lemma parse_opened_eq_ok_iff (hcs : Text.strip text = String.ofList cs) {i : Nat}
    (h : FirstUnescaped '(' cs i) {call : Call} :
    parse shapeOf text = .ok call ↔ OpenedAt shapeOf cs i call := by
  rw [parse_of_opened shapeOf hcs h]
  split_ifs with hblank hlast
  · exact iff_of_false nofun fun hopened => hopened.named hblank
  · exact iff_of_false nofun fun hopened => hlast hopened.closed
  · constructor
    · rintro ⟨⟩
      exact ⟨hblank, not_not.mp hlast, rfl, rfl, rfl⟩
    · rintro ⟨-, -, hname, hraw, hargs⟩
      obtain ⟨name, rawArgs, args⟩ := call
      dsimp only at hname hraw hargs
      subst hname hraw hargs
      rfl

lemma parse_not_opened_eq_ok_iff (hcs : Text.strip text = String.ofList cs)
    (h : ∀ i, ¬ Unescaped '(' cs i) {call : Call} :
    parse shapeOf text = .ok call ↔
      cs ≠ [] ∧ (∀ i, ¬ Unescaped ':' cs i) ∧ call = { name := String.ofList cs } := by
  rw [parse_of_not_opened shapeOf hcs h, ← not_exists, ← isSome_findUnescaped?_colon]
  split_ifs with hcolon hempty
  · exact iff_of_false nofun fun hname => hname.2.1 hcolon
  · exact iff_of_false nofun fun hname => hname.1 hempty
  · simp [hcolon, hempty, eq_comm]

/-- The old notation is refused as such. -/
lemma parse_of_colon (hcs : Text.strip text = String.ofList cs)
    (h : (∀ i, ¬ Unescaped '(' cs i) ∧ ∃ i, Unescaped ':' cs i) :
    parse shapeOf text = .error (.colonSyntax (String.ofList cs)) := by
  rw [parse_of_not_opened shapeOf hcs h.1, if_pos (isSome_findUnescaped?_colon.mpr h.2)]

/-- Whatever else is refused is malformed. -/
lemma code_of_parse_eq_error (hcs : Text.strip text = String.ofList cs)
    (h : ¬ ((∀ i, ¬ Unescaped '(' cs i) ∧ ∃ i, Unescaped ':' cs i)) {e : SpecError}
    (he : parse shapeOf text = .error e) : e.code = .invalidValidator := by
  by_cases hopen : ∀ i, ¬ Unescaped '(' cs i
  · have hcolon : ¬ (findUnescaped? (String.ofList cs) ':').isSome := by
      rw [isSome_findUnescaped?_colon]
      exact fun hcolon => h ⟨hopen, hcolon⟩
    rw [parse_of_not_opened shapeOf hcs hopen, if_neg hcolon] at he
    split_ifs at he
    obtain rfl := Except.error.inj he
    rfl
  · obtain ⟨i, hi⟩ := exists_firstUnescaped hopen
    rw [parse_of_opened shapeOf hcs hi] at he
    split_ifs at he
    · obtain rfl := Except.error.inj he
      rfl
    · obtain rfl := Except.error.inj he
      rfl

end

/-- A text is taken apart around the first parenthesis that is not escaped, and there is no other
way to take it apart; without one it is a name. What is refused is either an old notation, with a
colon in the place of the parenthesis, or malformed. A name in which no parenthesis opens and that
does not escape the one after it comes back with its arguments. -/
theorem parse_grammar (text : String) :
    let cs := Text.stripChars text.toList
    (∀ i, FirstUnescaped '(' cs i → ∀ call,
      parse shapeOf text = .ok call ↔ OpenedAt shapeOf cs i call) ∧
    ((∀ i, ¬ Unescaped '(' cs i) → ∀ call,
      parse shapeOf text = .ok call ↔
        cs ≠ [] ∧ (∀ i, ¬ Unescaped ':' cs i) ∧ call = { name := String.ofList cs }) ∧
    ((∃ e, parse shapeOf text = .error e ∧ e.code = .mustUseParentheses ∧
        e.params = [("spec", .text (String.ofList cs))]) ↔
      (∀ i, ¬ Unescaped '(' cs i) ∧ ∃ i, Unescaped ':' cs i) ∧
    (∀ e, parse shapeOf text = .error e →
      ¬ ((∀ i, ¬ Unescaped '(' cs i) ∧ ∃ i, Unescaped ':' cs i) → e.code = .invalidValidator) ∧
    ∀ name raw : String, name ≠ "" → Text.strip name = name →
      (∀ i, ¬ Unescaped '(' name.toList i) →
      backslashesBefore name.toList name.toList.length % 2 = 0 →
      parse shapeOf (name ++ "(" ++ raw ++ ")") =
        .ok { name, rawArgs := raw, args := (shapeOf name).split raw } := by
  intro cs
  have hcs : Text.strip text = String.ofList cs := rfl
  refine ⟨fun i hi call => parse_opened_eq_ok_iff shapeOf hcs hi,
    fun h call => parse_not_opened_eq_ok_iff shapeOf hcs h, ⟨?_, ?_⟩,
    fun e he h => code_of_parse_eq_error shapeOf hcs h he, ?_⟩
  · rintro ⟨e, he, hcode, -⟩
    -- every other error has the code of a malformed spec
    by_contra h
    have hmalformed := code_of_parse_eq_error shapeOf hcs h he
    rw [hcode] at hmalformed
    cases hmalformed
  · intro h
    exact ⟨_, parse_of_colon shapeOf hcs h, rfl, rfl⟩
  · intro name raw hne hstrip hopen heven
    have htext : name ++ "(" ++ raw ++ ")" =
        String.ofList (name.toList ++ '(' :: (raw.toList ++ [')'])) := by
      simp [String.ext_iff]
    have hchars : Text.stripChars name.toList = name.toList := by
      rw [← Text.toList_strip, hstrip]
    rw [htext, parse_name_args shapeOf (by simpa using hne) hchars hopen heven,
      String.ofList_toList, String.ofList_toList]

/-- A name with an escaped parenthesis, an old notation, a parenthesis that is not closed, and a
name that ends with an escaped backslash. -/
theorem parse_grammar_escaped :
    parse (fun _ => .list) " re\\(x (a\\)b,c) " =
      .ok { name := "re\\(x", rawArgs := "a\\)b,c", args := ["a\\)b", "c"] } ∧
    (∃ e, parse (fun _ => .list) " min:\\(5) " = .error e ∧ e.code = .mustUseParentheses ∧
      e.params = [("spec", .text "min:\\(5)")]) ∧
    (∀ e, parse (fun _ => .list) "min(5:" = .error e → e.code = .invalidValidator) ∧
    parse (fun _ => .single) ("a\\(b\\\\" ++ "(" ++ " ((" ++ ")") =
      .ok { name := "a\\(b\\\\", rawArgs := " ((", args := [" (("] } := by
  refine ⟨?_, ?_, ?_, ?_⟩
  · refine ((parse_grammar _ " re\\(x (a\\)b,c) ").1 6 (by decide) _).mpr ?_
    exact ⟨by decide, by decide, by decide, by decide, by decide⟩
  · exact (parse_grammar _ " min:\\(5) ").2.2.1.mpr ⟨by decide, 3, by decide⟩
  · intro e he
    exact (parse_grammar _ "min(5:").2.2.2.1 e he fun h => h.1 3 (by decide)
  · exact (parse_grammar (fun _ => .single) "").2.2.2.2 "a\\(b\\\\" " ((" (by decide) (by decide)
      (by decide) (by decide)

end Call

end ValueSpec
