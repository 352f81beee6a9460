import Mathlib.Data.List.TakeWhile
import Mathlib.Tactic.Lemma
import ValueSpec.Pattern.StrictEnd
import ValueSpec.Proofs.Splitting

/-!
# Sets and ends

A pattern is a sequence of glyphs and sets. A set begins with a bracket and possibly a caret, which
negates it; its first member may be a closing bracket, and the next closing bracket ends it. Strict
ends are written for the dollar signs outside of sets. Sets are told apart by this rule but for one
kind: where all members of a negated set are carets, these count as signs too, and so the set is
taken to go on to the next closing bracket.
-/

namespace ValueSpec.Pattern

/-! ### Parts of a pattern -/

/-- A part of a pattern, as far as its ends are concerned. -/
inductive Part
  /-- A glyph outside of sets. -/
  | glyph (g : Glyph)
  /-- A set, with what stands between its brackets. -/
  | set (body : List Glyph)
  /-- A set that nothing closes. -/
  | openSet (body : List Glyph)

namespace Part

/-- The glyphs that a part is written with. -/
def glyphs : Part → List Glyph
  | glyph g => [g]
  | set body => .plain '[' :: (body ++ [.plain ']'])
  | openSet body => .plain '[' :: body

/-- The part with a strict end in the place of a dollar sign. -/
def strict : Part → Part
  | glyph g => glyph (if g = .plain '$' then .escaped 'Z' else g)
  | part => part

/-- For each glyph of a part, whether it is a dollar sign outside of sets. -/
def ends : Part → List Bool
  | glyph g => [g = .plain '$']
  | part => part.glyphs.map fun _ => false

/-- The text that is written with several parts. -/
def text (ps : List Part) : String := String.ofList (Glyph.toChars (ps.flatMap glyphs))

end Part

/-- A rule for which glyphs of a set are its members: all but a sign at the beginning, which does
not depend on the members after the first. -/
structure SignRule where
  members : List Glyph → List Glyph
  sign : ∀ {body first others}, members body = first :: others →
    ∃ sign, body = sign ++ first :: others ∧
      ∀ others, members (sign ++ first :: others) = first :: others

namespace SignRule

/-- One caret negates a set. -/
def negation : SignRule where
  members
    | .plain '^' :: rest => rest
    | body => body
  sign := by
    intro body first others h
    split at h
    · exact ⟨[.plain '^'], by rw [h]; rfl, fun _ => rfl⟩
    · rename_i hcaret
      refine ⟨[], h, fun others' => ?_⟩
      split
      · rename_i rest heq
        rw [List.nil_append, List.cons.injEq] at heq
        exact absurd (h.trans (by rw [heq.1])) (hcaret _)
      · rfl

/-- All carets at the beginning of a set are signs. -/
def carets : SignRule where
  members body := body.dropWhile (· = .plain '^')
  sign := by
    intro body first others h
    have hfirst : first ≠ .plain '^' := by
      have hhead := List.head?_dropWhile_not (· = Glyph.plain '^') body
      rw [h] at hhead
      simpa using hhead
    refine ⟨body.takeWhile (· = .plain '^'), ?_, fun others' => ?_⟩
    · rw [← h, List.takeWhile_append_dropWhile]
    · have hsigns : ∀ g ∈ body.takeWhile (· = .plain '^'), decide (g = .plain '^') = true :=
        fun _ hg => by simpa using List.mem_takeWhile_imp hg
      rw [List.dropWhile_append_of_pos hsigns]
      simp [hfirst]

end SignRule

/-- Glyphs are read as parts. The first member of a set may be a closing bracket, the others may
not. -/
inductive Reads (rule : SignRule) : List Glyph → List Part → Prop
  | nil : Reads rule [] []
  | glyph {g : Glyph} {gs : List Glyph} {ps : List Part} : g ≠ .plain '[' → Reads rule gs ps →
      Reads rule (g :: gs) (.glyph g :: ps)
  | set {body gs : List Glyph} {ps : List Part} : rule.members body ≠ [] →
      .plain ']' ∉ (rule.members body).tail → Reads rule gs ps →
      Reads rule (.plain '[' :: (body ++ .plain ']' :: gs)) (.set body :: ps)
  | openSet {body : List Glyph} : .plain ']' ∉ (rule.members body).tail →
      Reads rule (.plain '[' :: body) [.openSet body]

variable {rule : SignRule} {gs : List Glyph} {ps qs : List Part}

namespace SignRule

lemma members_append {body : List Glyph} (h : rule.members body ≠ []) (more : List Glyph) :
    rule.members (body ++ more) = rule.members body ++ more := by
  obtain ⟨first, others, hmembers⟩ := List.exists_cons_of_ne_nil h
  obtain ⟨sign, hbody, hsign⟩ := rule.sign hmembers
  rw [hmembers, List.cons_append, ← hsign, hbody, List.append_assoc, List.cons_append]

/-- A set that has a closing bracket among its later members is closed by the first of these. -/
lemma exists_closed {body : List Glyph} (h : .plain ']' ∈ (rule.members body).tail) :
    ∃ inner rest, body = inner ++ .plain ']' :: rest ∧ rule.members inner ≠ [] ∧
      .plain ']' ∉ (rule.members inner).tail := by
  cases hmembers : rule.members body with
  | nil => simp [hmembers] at h
  | cons first others =>
    rw [hmembers, List.tail_cons] at h
    obtain ⟨before, rest, hothers, hbefore⟩ := List.eq_append_cons_of_mem h
    obtain ⟨sign, hbody, hsign⟩ := rule.sign hmembers
    refine ⟨sign ++ first :: before, rest, ?_, ?_, ?_⟩
    · rw [hbody, hothers, List.append_assoc, List.cons_append]
    · rw [hsign]
      exact List.cons_ne_nil _ _
    · rw [hsign]
      exact hbefore

end SignRule

namespace Reads

@[simp] lemma nil_iff : Reads rule [] ps ↔ ps = [] := by
  constructor
  · intro h
    cases h
    rfl
  · rintro rfl
    exact .nil

lemma cons_iff {g : Glyph} (hg : g ≠ .plain '[') :
    Reads rule (g :: gs) ps ↔ ∃ qs, Reads rule gs qs ∧ ps = .glyph g :: qs := by
  constructor
  · intro h
    cases h with
    | glyph _ h => exact ⟨_, h, rfl⟩
    | set => exact absurd rfl hg
    | openSet => exact absurd rfl hg
  · rintro ⟨qs, h, rfl⟩
    exact .glyph hg h

lemma bracket_iff :
    Reads rule (.plain '[' :: gs) ps ↔
      (∃ body rest qs, gs = body ++ .plain ']' :: rest ∧ rule.members body ≠ [] ∧
        .plain ']' ∉ (rule.members body).tail ∧ Reads rule rest qs ∧ ps = .set body :: qs) ∨
      (.plain ']' ∉ (rule.members gs).tail ∧ ps = [.openSet gs]) := by
  constructor
  · intro h
    cases h with
    | glyph hg => exact absurd rfl hg
    | set hmembers hclose h => exact .inl ⟨_, _, _, rfl, hmembers, hclose, h, rfl⟩
    | openSet hclose => exact .inr ⟨hclose, rfl⟩
  · rintro (⟨body, rest, qs, rfl, hmembers, hclose, h, rfl⟩ | ⟨hclose, rfl⟩)
    · exact .set hmembers hclose h
    · exact .openSet hclose

/-- The bracket that closes a set is none of its later members. -/
lemma close_mem_tail {body : List Glyph} (h : rule.members body ≠ []) (more : List Glyph) :
    .plain ']' ∈ (rule.members (body ++ .plain ']' :: more)).tail := by
  obtain ⟨first, others, hmembers⟩ := List.exists_cons_of_ne_nil h
  rw [SignRule.members_append h, hmembers]
  simp

/-- A set ends in one place only. -/
lemma body_unique {body other rest rest' : List Glyph} (hbody : rule.members body ≠ [])
    (hother : rule.members other ≠ []) (hclose : .plain ']' ∉ (rule.members body).tail)
    (hclose' : .plain ']' ∉ (rule.members other).tail)
    (h : body ++ .plain ']' :: rest = other ++ .plain ']' :: rest') :
    body = other ∧ rest = rest' := by
  obtain ⟨more, hmore, hrest⟩ | ⟨more, hmore, hrest⟩ := List.append_eq_append_iff.mp h
  · cases more with
    | nil => exact ⟨by simpa using hmore.symm, by simpa using hrest⟩
    | cons g more =>
      obtain ⟨rfl, -⟩ := List.cons.inj hrest
      rw [hmore] at hclose'
      exact absurd (close_mem_tail hbody more) hclose'
  · cases more with
    | nil => exact ⟨by simpa using hmore, by simpa [eq_comm] using hrest⟩
    | cons g more =>
      obtain ⟨rfl, -⟩ := List.cons.inj hrest
      rw [hmore] at hclose
      exact absurd (close_mem_tail hother more) hclose

/-- Glyphs are read in one way only. -/
lemma unique (h : Reads rule gs ps) (h' : Reads rule gs qs) : ps = qs := by
  induction h generalizing qs with
  | nil => exact (nil_iff.mp h').symm
  | glyph hg _ ih =>
    obtain ⟨rest, hrest, rfl⟩ := (cons_iff hg).mp h'
    rw [ih hrest]
  | set hmembers hclose _ ih =>
    obtain ⟨body, rest, rs, hsplit, hmembers', hclose', hrest, rfl⟩ | ⟨hopen, -⟩ :=
      bracket_iff.mp h'
    · obtain ⟨rfl, rfl⟩ := body_unique hmembers hmembers' hclose hclose' hsplit
      rw [ih hrest]
    · exact absurd (close_mem_tail hmembers _) hopen
  | openSet hopen =>
    obtain ⟨body, rest, rs, rfl, hmembers, -⟩ | ⟨-, rfl⟩ := bracket_iff.mp h'
    · exact absurd (close_mem_tail hmembers _) hopen
    · rfl

end Reads

/-- All glyphs can be read. -/
lemma exists_reads (rule : SignRule) (gs : List Glyph) : ∃ ps, Reads rule gs ps := by
  match gs with
  | [] => exact ⟨[], .nil⟩
  | g :: gs =>
    by_cases hg : g = .plain '['
    · subst hg
      by_cases hclose : .plain ']' ∈ (rule.members gs).tail
      · obtain ⟨body, rest, hsplit, hmembers, htail⟩ := SignRule.exists_closed hclose
        have hshorter : rest.length < gs.length + 1 := by
          rw [hsplit, List.length_append, List.length_cons]
          omega
        obtain ⟨ps, hps⟩ := exists_reads rule rest
        rw [hsplit]
        exact ⟨_, .set hmembers htail hps⟩
      · exact ⟨_, .openSet hclose⟩
    · obtain ⟨ps, hps⟩ := exists_reads rule gs
      exact ⟨_, .glyph hg hps⟩
termination_by gs.length

namespace Reads

/-- What is read is what the parts are written with. -/
lemma flatMap_glyphs (h : Reads rule gs ps) : ps.flatMap Part.glyphs = gs := by
  induction h with
  | nil => rfl
  | glyph _ _ ih =>
    rw [List.flatMap_cons, ih]
    rfl
  | set _ _ _ ih =>
    rw [List.flatMap_cons, ih]
    simp [Part.glyphs]
  | openSet _ => simp [Part.glyphs]

/-- With strict ends the parts are the same but for these ends. -/
lemma strict (h : Reads rule gs ps) :
    Reads rule ((ps.map Part.strict).flatMap Part.glyphs) (ps.map Part.strict) := by
  induction h with
  | nil => exact .nil
  | @glyph g gs ps hg _ ih =>
    refine .glyph ?_ ih
    split_ifs
    · simp
    · exact hg
  | set hmembers hclose _ ih =>
    simpa [Part.glyphs, Part.strict] using Reads.set hmembers hclose ih
  | openSet hclose => simpa [Part.glyphs, Part.strict] using Reads.openSet hclose

/-- The two rules tell the same sets apart, unless a negated set has carets only. -/
lemma carets_iff (h : Reads .negation gs ps) :
    Reads .carets gs ps ↔ ∀ body, .set body ∈ ps → ∃ g ∈ body, g ≠ .plain '^' := by
  -- one rule drops the first caret and the other one all carets at the beginning
  have hsuffix : ∀ body, SignRule.carets.members body <:+ SignRule.negation.members body := by
    intro body
    cases body with
    | nil => exact List.suffix_rfl
    | cons g rest =>
      by_cases hg : g = .plain '^'
      · subst hg
        have hdrop : SignRule.carets.members (.plain '^' :: rest) =
            SignRule.carets.members rest := by
          simp [SignRule.carets]
        rw [hdrop]
        exact List.dropWhile_suffix _
      · have hsame : SignRule.negation.members (g :: rest) = g :: rest := by
          simp [SignRule.negation, hg]
        rw [hsame]
        exact List.dropWhile_suffix _
  have hclosed : ∀ body, .plain ']' ∉ (SignRule.negation.members body).tail →
      .plain ']' ∉ (SignRule.carets.members body).tail := fun body =>
    mt fun hmem => (hsuffix body).sublist.tail.subset hmem
  constructor
  · intro hcarets
    clear h
    induction hcarets with
    | nil => simp
    | glyph _ _ ih => simpa using ih
    | set hmembers _ _ ih =>
      simp only [List.mem_cons, Part.set.injEq]
      rintro body (rfl | hmem)
      · simpa [SignRule.carets, List.dropWhile_eq_nil_iff] using hmembers
      · exact ih body hmem
    | openSet => simp
  · intro hmember
    induction h with
    | nil => exact .nil
    | glyph hg _ ih => exact .glyph hg (ih fun body hbody => hmember body (by simp [hbody]))
    | set _ hclose _ ih =>
      refine .set ?_ (hclosed _ hclose) (ih fun body hbody => hmember body (by simp [hbody]))
      simpa [SignRule.carets, List.dropWhile_eq_nil_iff] using hmember _ (List.mem_cons_self ..)
    | openSet hclose => exact .openSet (hclosed _ hclose)

end Reads

/-! ### Writing strict ends -/

namespace Part

/-- A glyph, or a strict end in its place. -/
def mark (g : Glyph) (atEnd : Bool) : Glyph := if atEnd then .escaped 'Z' else g

lemma zipWith_mark_none (gs : List Glyph) :
    List.zipWith mark gs (gs.map fun _ => false) = gs := by
  rw [List.zipWith_map_right, List.zipWith_self]
  simp [mark]

lemma zipWith_ne_self (gs : List Glyph) :
    List.zipWith (fun g h => decide (g ≠ h)) gs gs = gs.map fun _ => false := by
  rw [List.zipWith_self]
  simp

lemma length_ends (p : Part) : p.glyphs.length = p.ends.length := by
  cases p <;> simp [glyphs, ends]

/-- The strict parts are written with the same glyphs, less the ends. -/
lemma flatMap_glyphs_strict (ps : List Part) :
    (ps.map strict).flatMap glyphs = List.zipWith mark (ps.flatMap glyphs) (ps.flatMap ends) := by
  induction ps with
  | nil => rfl
  | cons p ps ih =>
    have hp : p.strict.glyphs = List.zipWith mark p.glyphs p.ends := by
      cases p with
      | glyph g => by_cases hg : g = .plain '$' <;> simp [strict, glyphs, ends, mark, hg]
      | set body => exact (zipWith_mark_none _).symm
      | openSet body => exact (zipWith_mark_none _).symm
    rw [List.map_cons, List.flatMap_cons, List.flatMap_cons, List.flatMap_cons, ih, hp,
      List.zipWith_append p.length_ends]

/-- The ends are where the strict parts differ. -/
lemma flatMap_ends (ps : List Part) :
    ps.flatMap ends = List.zipWith (fun g h => decide (g ≠ h)) (ps.flatMap glyphs)
      ((ps.map strict).flatMap glyphs) := by
  induction ps with
  | nil => rfl
  | cons p ps ih =>
    have hp : p.ends = List.zipWith (fun g h => decide (g ≠ h)) p.glyphs p.strict.glyphs := by
      cases p with
      | glyph g => by_cases hg : g = .plain '$' <;> simp [strict, glyphs, ends, hg]
      | set body => exact (zipWith_ne_self _).symm
      | openSet body => exact (zipWith_ne_self _).symm
    have hlength : p.glyphs.length = p.strict.glyphs.length := by
      cases p <;> rfl
    rw [List.map_cons, List.flatMap_cons, List.flatMap_cons, List.flatMap_cons, ih, hp,
      List.zipWith_append hlength]

/-- Glyphs with strict ends can be read again. -/
lemma ofChars_mark (cs : List Char) (es : List Bool) :
    Glyph.ofChars (Glyph.toChars (List.zipWith mark (Glyph.ofChars cs) es)) =
      List.zipWith mark (Glyph.ofChars cs) es := by
  induction cs using Glyph.ofChars_induction generalizing es with
  | nil => rfl
  | dangling =>
    cases es with
    | nil => rfl
    | cons e es => cases e <;> rfl
  | escaped d rest ih =>
    rw [Glyph.ofChars_backslash]
    cases es with
    | nil => rfl
    | cons e es => cases e <;> simp [mark, Glyph.chars, Glyph.ofChars_backslash, ih es]
  | plain c rest hc ih =>
    rw [Glyph.ofChars_cons hc]
    cases es with
    | nil => rfl
    | cons e es =>
      cases e with
      | true => simp [mark, Glyph.chars, Glyph.ofChars_backslash, ih es]
      | false => simp [mark, Glyph.chars, Glyph.ofChars_cons hc, ih es]

end Part

namespace Reads

/-- The strict text of a pattern is read as the strict parts. -/
lemma ofString_text {p : String} (h : Reads rule (Glyph.ofString p) ps) :
    Glyph.ofString (Part.text (ps.map Part.strict)) = (ps.map Part.strict).flatMap Part.glyphs := by
  rw [Part.text, Glyph.ofString, String.toList_ofList, Part.flatMap_glyphs_strict, h.flatMap_glyphs]
  exact Part.ofChars_mark _ _

/-- Two readings have the same strict text if they have the same ends. -/
lemma text_strict_inj {rule' : SignRule} {p : String} (h : Reads rule (Glyph.ofString p) ps)
    (h' : Reads rule' (Glyph.ofString p) qs) :
    Part.text (ps.map Part.strict) = Part.text (qs.map Part.strict) ↔
      ps.flatMap Part.ends = qs.flatMap Part.ends := by
  constructor
  · intro htext
    have hglyphs : (ps.map Part.strict).flatMap Part.glyphs =
        (qs.map Part.strict).flatMap Part.glyphs := by
      rw [← h.ofString_text, ← h'.ofString_text, htext]
    rw [Part.flatMap_ends, Part.flatMap_ends, hglyphs, h.flatMap_glyphs, h'.flatMap_glyphs]
  · intro hends
    rw [Part.text, Part.text, Part.flatMap_glyphs_strict, Part.flatMap_glyphs_strict, hends,
      h.flatMap_glyphs, h'.flatMap_glyphs]

end Reads

/-- Inside of a set nothing is changed up to the bracket that closes it. -/
lemma strictGlyphs_inside {gs : List Glyph} (h : .plain ']' ∉ gs) (more : List Glyph) :
    strictGlyphs .inside (gs ++ more) = Glyph.toChars gs ++ strictGlyphs .inside more := by
  induction gs with
  | nil => rfl
  | cons g gs ih =>
    rw [List.mem_cons, not_or] at h
    have hafter : SetPlace.inside.after g = .inside := if_neg (Ne.symm h.1)
    rw [List.cons_append, strictGlyphs_cons, hafter, ih h.2, Glyph.toChars_cons, List.append_assoc]
    rfl

/-- At the beginning of a set the carets are passed over, and then the first member. -/
lemma strictGlyphs_first {body : List Glyph}
    (h : .plain ']' ∉ (SignRule.carets.members body).tail) (more : List Glyph) :
    strictGlyphs .first (body ++ more) = Glyph.toChars body ++
      strictGlyphs (if SignRule.carets.members body = [] then .first else .inside) more := by
  induction body with
  | nil => rfl
  | cons g rest ih =>
    rw [List.cons_append, strictGlyphs_cons, Glyph.toChars_cons, List.append_assoc]
    by_cases hg : g = .plain '^'
    · have hmembers : SignRule.carets.members (g :: rest) = SignRule.carets.members rest := by
        simp [SignRule.carets, hg]
      have hafter : SetPlace.first.after g = .first := if_pos hg
      rw [hmembers] at h ⊢
      rw [hafter, ih h]
      rfl
    · have hmembers : SignRule.carets.members (g :: rest) = g :: rest := by
        simp [SignRule.carets, hg]
      have hafter : SetPlace.first.after g = .inside := if_neg hg
      rw [hmembers, List.tail_cons] at h
      rw [hmembers, hafter, strictGlyphs_inside h, if_neg (List.cons_ne_nil _ _)]
      rfl

/-- Strict ends are written outside of the sets, as they are told apart if all carets are signs. -/
lemma strictGlyphs_of_reads (h : Reads .carets gs ps) :
    strictGlyphs .outside gs = Glyph.toChars ((ps.map Part.strict).flatMap Part.glyphs) := by
  induction h with
  | nil => rfl
  | @glyph g gs ps hg _ ih =>
    have hafter : SetPlace.outside.after g = .outside := if_neg hg
    rw [strictGlyphs_cons, hafter, ih]
    by_cases hdollar : g = .plain '$' <;>
      simp [strictGlyph, Part.strict, Part.glyphs, Glyph.chars, hdollar]
  | @set body gs ps hmembers hclose _ ih =>
    have hopen : SetPlace.outside.after (.plain '[') = .first := rfl
    have hshut : SetPlace.inside.after (.plain ']') = .outside := rfl
    rw [strictGlyphs_cons, hopen, strictGlyphs_first hclose, if_neg hmembers, strictGlyphs_cons,
      hshut, ih]
    simp [strictGlyph, Part.strict, Part.glyphs, Glyph.toChars]
  | @openSet body hclose =>
    have hopen : SetPlace.outside.after (.plain '[') = .first := rfl
    have hbody := strictGlyphs_first hclose []
    rw [List.append_nil, strictGlyphs_nil, List.append_nil] at hbody
    rw [strictGlyphs_cons, hopen, hbody]
    simp [strictGlyph, Part.strict, Part.glyphs]

/-! ### Strict patterns -/

open Glyph Pattern.Part in
/-- A pattern has one reading in which a caret negates a set, and one in which all carets at the
beginning of a set are signs. Strict ends are written by the second. This is the same as by the
first if both find the same dollar signs outside of sets, and always if no negated set has carets
only. Where strict ends are written by the first reading there is no dollar sign outside of sets
any more, and the sets are as they were. -/
theorem strictEnd_parts (pattern : String) :
    ∃ ps cs, (∀ qs, Reads .negation (ofString pattern) qs ↔ qs = ps) ∧
      (∀ qs, Reads .carets (ofString pattern) qs ↔ qs = cs) ∧
      strictEnd pattern = text (cs.map strict) ∧
      (strictEnd pattern = text (ps.map strict) ↔ cs.flatMap ends = ps.flatMap ends) ∧
      (cs = ps ↔ ∀ body, .set body ∈ ps → ∃ g ∈ body, g ≠ .plain '^') ∧
      (∀ qs, Reads .negation (ofString (text (ps.map strict))) qs ↔ qs = ps.map strict) ∧
      .glyph (.plain '$') ∉ ps.map strict := by
  obtain ⟨ps, hps⟩ := exists_reads .negation (ofString pattern)
  obtain ⟨cs, hcs⟩ := exists_reads .carets (ofString pattern)
  have hstrict : strictEnd pattern = text (cs.map strict) := by
    rw [strictEnd, strictGlyphs_of_reads hcs, text]
  have hagain : Reads .negation (ofString (text (ps.map strict))) (ps.map strict) := by
    rw [hps.ofString_text]
    exact hps.strict
  have hreading : ∀ {rule : SignRule} {gs : List Glyph} {rs : List Part}, Reads rule gs rs →
      ∀ qs, Reads rule gs qs ↔ qs = rs := by
    intro rule gs rs hrs qs
    exact ⟨fun hqs => hqs.unique hrs, fun h => h ▸ hrs⟩
  refine ⟨ps, cs, hreading hps, hreading hcs, hstrict, ?_, ?_, hreading hagain, ?_⟩
  · rw [hstrict]
    exact hcs.text_strict_inj hps
  · rw [← hps.carets_iff, eq_comm, hreading hcs]
  · rw [List.mem_map]
    rintro ⟨part, -, hpart⟩
    cases part with
    | glyph g =>
      rw [strict, Part.glyph.injEq] at hpart
      split_ifs at hpart with hg
      exact hg hpart
    | set body => cases hpart
    | openSet body => cases hpart

open Glyph Pattern.Part in
/-- A negated set of a caret, before an end that is not made strict. -/
theorem not_strictEnd_carets :
    strictEnd "[^^]$" = "[^^]$" ∧
      Reads .negation (ofString "[^^]$") [.set [.plain '^', .plain '^'], .glyph (.plain '$')] ∧
      text ([.set [.plain '^', .plain '^'], .glyph (.plain '$')].map strict) = "[^^]\\Z" := by
  have hend : Reads .negation [.plain '$'] [.glyph (.plain '$')] := .glyph (by decide) .nil
  have hmembers : SignRule.negation.members [.plain '^', .plain '^'] = [.plain '^'] := rfl
  have hset : Reads .negation
      (.plain '[' :: ([.plain '^', .plain '^'] ++ .plain ']' :: [.plain '$']))
      [.set [.plain '^', .plain '^'], .glyph (.plain '$')] :=
    .set (by simp [hmembers]) (by simp [hmembers]) hend
  exact ⟨by decide, hset, by decide⟩

end ValueSpec.Pattern
