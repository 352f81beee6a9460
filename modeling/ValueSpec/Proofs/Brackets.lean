import Mathlib.Tactic.SplitIfs
import ValueSpec.Proofs.Splitting

/-!
# Brackets and commas

In a text with brackets a closer matches the latest opener of its kind that is still open, an
opener without a closer reaches to the end, and a closer without an opener is a stray one. A comma
separates if for each kind of brackets it is inside of as many groups as there are stray closers
before it. So where nothing is stray a comma separates if it is outside of all groups, but behind a
stray closer the commas outside of groups do not separate any more.
-/

namespace ValueSpec

/-- A kind of brackets. -/
inductive Bracket
  | round
  | curly
  deriving DecidableEq, Repr

namespace Bracket

/-- The glyph that opens a group. -/
def opener : Bracket → Glyph
  | round => .plain '('
  | curly => .plain '\x7b'

/-- The glyph that closes a group. -/
def closer : Bracket → Glyph
  | round => .plain ')'
  | curly => .plain '\x7d'

instance (p : Bracket → Prop) [DecidablePred p] : Decidable (∀ k, p k) :=
  decidable_of_iff (p round ∧ p curly)
    ⟨fun h k => by cases k <;> simp [h], fun h => ⟨h round, h curly⟩⟩

lemma opener_ne_closer (k : Bracket) : k.opener ≠ k.closer := by
  cases k <;> decide

/-! ### Groups -/

variable (k : Bracket) (gs : List Glyph)

/-- The places of the openers that are still open before a place, the latest first. A closer takes
away the latest. -/
def stillOpen : Nat → List Nat
  | 0 => []
  | i + 1 =>
    if gs[i]? = some k.opener then i :: stillOpen i
    else if gs[i]? = some k.closer then (stillOpen i).tail
    else stillOpen i

/-- The closer at `stop` matches the opener at `start`, which is the latest that is still open. -/
def Matches (start stop : Nat) : Prop :=
  gs[stop]? = some k.closer ∧ (k.stillOpen gs stop).head? = some start

/-- A place is inside of a group: behind an opener, and not behind a closer that matches it. -/
def Inside (i : Nat) : Prop :=
  ∃ start < i, gs[start]? = some k.opener ∧ ∀ stop < i, ¬ k.Matches gs start stop

/-- A closer where nothing of its kind is open. -/
def Stray (i : Nat) : Prop := gs[i]? = some k.closer ∧ k.stillOpen gs i = []

instance : DecidablePred (k.Stray gs) := fun _ => inferInstanceAs (Decidable (_ ∧ _))

/-- The number of stray closers before a place. -/
def strays (i : Nat) : Nat := (List.range i).countP (k.Stray gs)

variable {k gs} {i : Nat}

/-- The openers that are still open are listed from the latest to the first. -/
lemma pairwise_stillOpen : (k.stillOpen gs i).Pairwise (· > ·) ∧ ∀ j ∈ k.stillOpen gs i, j < i := by
  induction i with
  | zero => simp [stillOpen]
  | succ i ih =>
    obtain ⟨hpairwise, hlt⟩ := ih
    have hlater : ∀ j ∈ k.stillOpen gs i, j < i + 1 := fun j hj => Nat.lt_succ_of_lt (hlt j hj)
    rw [stillOpen]
    split_ifs with hopener hcloser
    · exact ⟨List.pairwise_cons.mpr ⟨hlt, hpairwise⟩, List.forall_mem_cons.mpr
        ⟨Nat.lt_succ_self _, hlater⟩⟩
    · exact ⟨hpairwise.tail, fun j hj => hlater j (List.mem_of_mem_tail hj)⟩
    · exact ⟨hpairwise, hlater⟩

lemma Matches.lt {start stop : Nat} (h : k.Matches gs start stop) : start < stop :=
  pairwise_stillOpen.2 start (List.mem_of_mem_head? h.2)

lemma mem_stillOpen_succ {start : Nat} :
    start ∈ k.stillOpen gs (i + 1) ↔
      (start = i ∧ gs[i]? = some k.opener) ∨
      (start ∈ k.stillOpen gs i ∧ ¬ k.Matches gs start i) := by
  rw [stillOpen, Matches]
  split_ifs with hopener hcloser
  · simp [hopener, k.opener_ne_closer]
  · have hpairwise : (k.stillOpen gs i).Pairwise (· > ·) := pairwise_stillOpen.1
    cases hstack : k.stillOpen gs i with
    | nil => simp [hopener]
    | cons last rest =>
      -- what is taken away is not among the others, which stand before it
      have hlast : last ∉ rest := by
        intro hmem
        rw [hstack] at hpairwise
        exact Nat.lt_irrefl _ ((List.pairwise_cons.mp hpairwise).1 last hmem)
      rw [List.tail_cons, List.head?_cons, Option.some_inj, List.mem_cons]
      constructor
      · intro hmem
        exact .inr ⟨.inr hmem, fun h => ne_of_mem_of_not_mem hmem hlast h.2.symm⟩
      · rintro (⟨-, h⟩ | ⟨rfl | hmem, hne⟩)
        · exact absurd h hopener
        · exact absurd ⟨hcloser, rfl⟩ hne
        · exact hmem
  · simp [hopener, hcloser]

/-- The openers that are still open are those that nothing has matched. -/
lemma mem_stillOpen_iff {start : Nat} :
    start ∈ k.stillOpen gs i ↔
      start < i ∧ gs[start]? = some k.opener ∧ ∀ stop < i, ¬ k.Matches gs start stop := by
  induction i with
  | zero => simp [stillOpen]
  | succ i ih =>
    rw [mem_stillOpen_succ, ih]
    constructor
    · rintro (⟨rfl, hopener⟩ | ⟨⟨hlt, hopener, hnone⟩, hmatches⟩)
      · exact ⟨Nat.lt_succ_self _, hopener, fun stop hstop h => by have := h.lt; omega⟩
      · refine ⟨by omega, hopener, fun stop hstop => ?_⟩
        obtain hlt | rfl := Nat.lt_succ_iff_lt_or_eq.mp hstop
        · exact hnone stop hlt
        · exact hmatches
    · rintro ⟨hlt, hopener, hnone⟩
      obtain hlt | rfl := Nat.lt_succ_iff_lt_or_eq.mp hlt
      · exact .inr ⟨⟨hlt, hopener, fun stop hstop => hnone stop (by omega)⟩, hnone i (by omega)⟩
      · exact .inl ⟨rfl, hopener⟩

lemma inside_iff : k.Inside gs i ↔ k.stillOpen gs i ≠ [] := by
  rw [← List.length_pos_iff, List.length_pos_iff_exists_mem]
  exact exists_congr fun _ => mem_stillOpen_iff.symm

instance (k : Bracket) (gs : List Glyph) (i : Nat) : Decidable (k.Inside gs i) :=
  decidable_of_iff _ inside_iff.symm

lemma strays_eq_zero_iff : k.strays gs i = 0 ↔ ∀ j < i, ¬ k.Stray gs j := by
  simp [strays, List.countP_eq_zero]

/-! ### Balances -/

/-- How many brackets of a kind have been opened and not closed. -/
def count : Bracket → Balance → Int
  | round, b => b.round
  | curly, b => b.curly

lemma count_step (k : Bracket) (b : Balance) (g : Glyph) :
    k.count (b.step g) =
      k.count b + if g = k.opener then 1 else if g = k.closer then -1 else 0 := by
  unfold Balance.step
  cases k <;> split <;> simp_all [count, opener, closer] <;> omega

lemma isEven_iff {b : Balance} : b.isEven ↔ ∀ k : Bracket, k.count b = 0 := by
  rw [Balance.isEven, Bool.and_eq_true, decide_eq_true_eq, decide_eq_true_eq]
  exact ⟨fun h k => by cases k <;> simp [count, h], fun h => ⟨h round, h curly⟩⟩

lemma strays_succ (k : Bracket) (gs : List Glyph) (i : Nat) :
    k.strays gs (i + 1) = k.strays gs i + if k.Stray gs i then 1 else 0 := by
  simp [strays, List.range_succ, List.countP_append, List.countP_singleton]

/-- A balance counts the open groups, less the stray closers. -/
lemma count_run_take (k : Bracket) (gs : List Glyph) (i : Nat) :
    k.count (Balance.zero.run (gs.take i)) = (k.stillOpen gs i).length - k.strays gs i := by
  induction i with
  | zero => cases k <;> rfl
  | succ i ih =>
    rw [strays_succ, stillOpen, List.take_add_one, Balance.run, List.foldl_append]
    rw [Balance.run] at ih
    cases hg : gs[i]? with
    | none => simp [ih, Stray, hg]
    | some g =>
      rw [Option.toList_some, List.foldl_cons, List.foldl_nil, count_step, ih]
      by_cases hopener : g = k.opener
      · simp [Stray, hg, hopener, k.opener_ne_closer]
        omega
      · by_cases hcloser : g = k.closer
        · cases hstack : k.stillOpen gs i with
          | nil =>
            simp [Stray, hg, hcloser, hstack, k.opener_ne_closer.symm]
            omega
          | cons last rest =>
            simp [Stray, hg, hcloser, hstack, k.opener_ne_closer.symm]
            omega
        · simp [Stray, hg, hopener, hcloser]

end Bracket

/-! ### Separating commas -/

/-- A comma stands at a place, and each kind of brackets has as many groups around it as stray
closers before it. -/
def Separates (gs : List Glyph) (i : Nat) : Prop :=
  gs[i]? = some (.plain ',') ∧ ∀ k : Bracket, (k.stillOpen gs i).length = k.strays gs i

instance (gs : List Glyph) : DecidablePred (Separates gs) := fun _ =>
  inferInstanceAs (Decidable (_ ∧ _))

lemma separates_iff (gs : List Glyph) (i : Nat) :
    Separates gs i ↔ gs[i]? = some (.plain ',') ∧ (Balance.zero.run (gs.take i)).isEven := by
  rw [Separates, Bracket.isEven_iff]
  refine and_congr_right fun _ => forall_congr' fun k => ?_
  rw [Bracket.count_run_take]
  omega

namespace Splitting

/-- The segments of glyphs that are cut where a comma separates. -/
def pieces (gs : List Glyph) : List (List Glyph) :=
  (gs.zipIdx.splitOnP fun p => Separates gs p.2).map (·.map Prod.fst)

/-- Behind what has been read the cuts are those at the separating commas of the whole. -/
lemma cut_eq_splitOnP (before rest : List Glyph) :
    cut (Balance.zero.run before) rest =
      ((rest.zipIdx before.length).splitOnP fun p => Separates (before ++ rest) p.2).map
        (·.map Prod.fst) := by
  -- the counters are those of what has been read, so every glyph moves from `rest` to `before`
  induction rest generalizing before with
  | nil => rfl
  | cons g rest ih =>
    have hhere : Separates (before ++ g :: rest) before.length ↔
        g = .plain ',' ∧ (Balance.zero.run before).isEven := by
      rw [separates_iff]
      simp
    have hrun : (Balance.zero.run before).step g = Balance.zero.run (before ++ [g]) := by
      rw [Balance.run, Balance.run, List.foldl_append]
      rfl
    have hrest := ih (before ++ [g])
    rw [List.length_append, List.length_singleton, List.append_assoc, List.singleton_append]
      at hrest
    rw [cut, List.zipIdx_cons, List.splitOnP_cons_eq_if_modifyHead]
    by_cases hcomma : g = .plain ',' ∧ (Balance.zero.run before).isEven
    · have hstep : (Balance.zero.run before).step g = Balance.zero.run before := by
        rw [hcomma.1]
        rfl
      rw [if_pos (by simpa using hcomma), if_pos (by simpa using hhere.mpr hcomma), ← hstep, hrun,
        hrest]
      rfl
    · rw [if_neg (by simpa using hcomma), if_neg (by simpa using mt hhere.mp hcomma), hrun, hrest]
      obtain ⟨first, others, hsplit⟩ := List.exists_cons_of_ne_nil
        (List.splitOnP_ne_nil (fun p => Separates (before ++ g :: rest) p.2)
          (rest.zipIdx (before.length + 1)))
      rw [hsplit]
      rfl

/-- A text is cut at its separating commas; the segments are written out and stripped, and those
without characters are left out. -/
lemma segments_eq (decode : Glyph → List Char) (s : String) :
    segments decode s =
      ((pieces (Glyph.ofString s)).map fun gs =>
        Text.strip (String.ofList (gs.flatMap decode))).filter (· ≠ "") := by
  have hcut : cut .zero (Glyph.ofString s) = pieces (Glyph.ofString s) :=
    cut_eq_splitOnP [] (Glyph.ofString s)
  rw [segments_eq_filter, hcut]

end Splitting

open Splitting Glyph in
/-- Arguments and lists of specs are cut at the commas that separate. Before the first stray closer
these are the commas outside of all groups; behind one, no comma outside of groups is among them. -/
theorem split_iff (s : String) :
    splitArguments s =
      ((pieces (ofString s)).map fun gs =>
        Text.strip (String.ofList (gs.flatMap chars))).filter (· ≠ "") ∧
    splitSpecs s =
      ((pieces (ofString s)).map fun gs =>
        Text.strip (String.ofList (gs.flatMap (decode specEscapes)))).filter (· ≠ "") ∧
    ∀ i, (ofString s)[i]? = some (.plain ',') →
      ((∀ k : Bracket, ∀ j < i, ¬ k.Stray (ofString s) j) →
        (Separates (ofString s) i ↔ ∀ k : Bracket, ¬ k.Inside (ofString s) i)) ∧
      ((∀ k : Bracket, ¬ k.Inside (ofString s) i) →
        (Separates (ofString s) i ↔ ∀ k : Bracket, ∀ j < i, ¬ k.Stray (ofString s) j)) := by
  refine ⟨segments_eq _ s, segments_eq _ s, fun i hcomma => ?_⟩
  simp only [Separates, hcomma, true_and, Bracket.inside_iff, not_not,
    ← Bracket.strays_eq_zero_iff]
  constructor
  · intro hstrays
    simp [hstrays]
  · intro hgroups
    simp [hgroups, eq_comm]

open Glyph in
/-- A comma between two arguments separates, and one between the arguments of an argument does
not. -/
theorem split_iff_nested :
    splitArguments "a, f(b,c)" = ["a", "f(b,c)"] ∧ Separates (ofString "a, f(b,c)") 1 ∧
      ¬ Separates (ofString "a, f(b,c)") 6 := by
  have hcuts := (split_iff "a, f(b,c)").2.2
  have hstrays : ∀ k : Bracket, ∀ j < 6, ¬ k.Stray (ofString "a, f(b,c)") j := by decide +kernel
  refine ⟨by decide +kernel, ?_, ?_⟩
  · exact ((hcuts 1 (by decide +kernel)).1 fun k j hj => hstrays k j (by omega)).mpr
      (by decide +kernel)
  · exact mt ((hcuts 6 (by decide +kernel)).1 hstrays).mp (by decide +kernel)

open Glyph in
/-- Behind a stray parenthesis a comma outside of groups does not separate, and one inside of a
group does. -/
theorem not_split_stray :
    splitArguments "a),b" = ["a),b"] ∧ splitSpecs "a),b" = ["a),b"] ∧
      (ofString "a),b")[2]? = some (.plain ',') ∧
      (∀ k : Bracket, ¬ k.Inside (ofString "a),b") 2) ∧
    splitArguments ")(a,b)" = [")(a", "b)"] ∧ splitSpecs ")(a,b)" = [")(a", "b)"] ∧
      (ofString ")(a,b)")[3]? = some (.plain ',') ∧
      Bracket.round.Inside (ofString ")(a,b)") 3 := by
  decide +kernel

end ValueSpec
