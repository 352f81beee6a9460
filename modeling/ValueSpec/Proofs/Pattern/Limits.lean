import Mathlib.Data.List.Infix
import Mathlib.Tactic.Lemma
import Mathlib.Tactic.SplitIfs
import ValueSpec.Proofs.Pattern.Literals

/-!
# Limits of reading patterns

Reading a pattern ends with a program or with a flaw in the notation, unless the text of the pattern
goes beyond a limit: it holds a numeral that is too long or too large, the letters of two flags that
exclude each other, or too many parentheses. What is still to be read is always an end of the text,
and there are no more calls open than parentheses have been passed over. Everything that reads a
part of the notation keeps this up.
-/

namespace ValueSpec.Pattern

/-- The text of a pattern goes beyond a limit. -/
inductive GoesBeyond (gs : List Glyph) : Fault → Prop
  /-- Too many digits in a row. -/
  | digits {ds : List Char} : ds.map .plain <:+: gs → (∀ c ∈ ds, c.isDigit) →
      Integer.digitLimit < ds.length → GoesBeyond gs (.tooManyDigits ds.length)
  /-- Digits of a number that is too large for a count. -/
  | count {ds : List Char} : ds.map .plain <:+: gs → (∀ c ∈ ds, c.isDigit) →
      repeatLimit ≤ numberOf 10 ds → GoesBeyond gs .repeatTooLarge
  /-- Hexadecimal digits of a number that is too large for a code point. -/
  | codePoint {ds : List Char} : ds.map .plain <:+: gs → (∀ c ∈ ds, isHexDigit c) →
      ds.length ≤ 8 → 0x7FFFFFFF < numberOf 16 ds → GoesBeyond gs .codePointTooLarge
  /-- The letters of the flags for ASCII and for Unicode. -/
  | flags : .plain 'a' ∈ gs → .plain 'u' ∈ gs → GoesBeyond gs .incompatibleFlags
  /-- So many parentheses that there may be too many inside each other. -/
  | nesting : callLimit < 2 * gs.count (.plain '(') + 2 → GoesBeyond gs .nestedTooDeep

/-! ### What reading keeps up -/

/-- The flags for ASCII and for Unicode are on only if their letters are in the text. -/
structure Backed (gs : List Glyph) (f : Flags) : Prop where
  ascii : f.ascii → .plain 'a' ∈ gs
  unicode : f.unicode → .plain 'u' ∈ gs

/-- A place in a text, with a number of open calls: each parenthesis that has been passed over can
have made two. -/
structure Sound (gs : List Glyph) (calls : Nat) (s : Source) : Prop where
  suffix : s.ahead <:+ gs
  room : calls + 2 * s.ahead.count (.plain '(') ≤ 2 * gs.count (.plain '(') + 2
  backed : Backed gs s.flags

/-- What may come of a step: no fault but of a limit that the text goes beyond, and otherwise a
sound place and a value with a property. -/
def Ends {α : Type} (gs : List Glyph) (calls : Nat) (Q : α → Prop) :
    Except Failure (α × Source) → Prop
  | .ok (a, s) => Q a ∧ Sound gs calls s
  | .error (.fault f) => GoesBeyond gs f
  | .error (.flaw _) => True

/-- A step of reading that obtains values with a property. -/
def Obtains {α : Type} (gs : List Glyph) (calls : Nat) (Q : α → Prop) (r : Read α) : Prop :=
  ∀ s, Sound gs calls s → Ends gs calls Q (r s)

/-- A step of reading that has no faults but those of the limits. -/
def Limited {α : Type} (gs : List Glyph) (calls : Nat) (r : Read α) : Prop :=
  Obtains gs calls (fun _ => True) r

variable {gs : List Glyph} {calls : Nat}

namespace Backed

lemma none : Backed gs {} := ⟨nofun, nofun⟩

lemma union {f g : Flags} (hf : Backed gs f) (hg : Backed gs g) : Backed gs (f.union g) := by
  constructor
  · intro h
    rcases Bool.or_eq_true_iff.mp h with h | h
    · exact hf.ascii h
    · exact hg.ascii h
  · intro h
    rcases Bool.or_eq_true_iff.mp h with h | h
    · exact hf.unicode h
    · exact hg.unicode h

lemma of_flag? {g : Glyph} {f : Flags} (hg : g ∈ gs) (h : flag? g = some f) : Backed gs f := by
  cases g with
  | plain c =>
    change Flags.ofLetter? c = some f at h
    unfold Flags.ofLetter? at h
    split at h <;> cases h
    case h_5 => exact ⟨fun _ => hg, nofun⟩
    case h_6 => exact ⟨nofun, fun _ => hg⟩
    all_goals exact ⟨nofun, nofun⟩
  | _ => cases h

end Backed

namespace Sound

variable {s s' : Source}

/-- What comes later in the text is sound too. -/
lemma of_suffix (hs : Sound gs calls s) (hahead : s'.ahead <:+ s.ahead)
    (hflags : s'.flags = s.flags) : Sound gs calls s' where
  suffix := hahead.trans hs.suffix
  room := by
    have hcount := hahead.sublist.count_le (.plain '(')
    have hroom := hs.room
    omega
  backed := hflags ▸ hs.backed

lemma after (hs : Sound gs calls s) (n : Nat) : Sound gs calls (s.after n) :=
  hs.of_suffix (List.drop_suffix n s.ahead) rfl

/-- A parenthesis leaves room for two more calls. -/
lemma open_after (hs : Sound gs calls s) (h : s.ahead.head? = some (.plain '(')) :
    Sound gs (calls + 2) (s.after 1) where
  suffix := (hs.after 1).suffix
  room := by
    obtain ⟨rest, hrest⟩ := List.head?_eq_some_iff.mp h
    have hroom := hs.room
    have hahead : (s.after 1).ahead = rest := by simp [Source.after, hrest]
    rw [hrest, List.count_cons_self] at hroom
    rw [hahead]
    omega
  backed := hs.backed

lemma mono {calls' : Nat} (hs : Sound gs calls' s) (h : calls ≤ calls') : Sound gs calls s :=
  ⟨hs.suffix, by have := hs.room; omega, hs.backed⟩

lemma infix_of_prefix (hs : Sound gs calls s) {hs' : List Glyph} (h : hs' <+: s.ahead) :
    hs' <:+: gs := h.isInfix.trans hs.suffix.isInfix

end Sound

/-! ### Composition -/

section

variable {α β : Type}

lemma Ends.bind {P : α → Prop} {Q : β → Prop} {x : Except Failure (α × Source)}
    {f : α × Source → Except Failure (β × Source)} (hx : Ends gs calls P x)
    (hf : ∀ a s, P a → Sound gs calls s → Ends gs calls Q (f (a, s))) :
    Ends gs calls Q (x >>= f) := by
  rcases x with (flaw | f) | ⟨a, s⟩
  · trivial
  · exact hx
  · exact hf a s hx.1 hx.2

lemma Ends.mono {calls' : Nat} {Q : α → Prop} {x : Except Failure (α × Source)}
    (hx : Ends gs calls' Q x) (h : calls ≤ calls') : Ends gs calls Q x := by
  rcases x with (flaw | f) | ⟨a, s⟩
  · trivial
  · exact hx
  · exact ⟨hx.1, hx.2.mono h⟩

namespace Obtains

variable {P Q : α → Prop} {R : β → Prop}

lemma pure {a : α} (h : Q a) : Obtains gs calls Q (Pure.pure a) := fun _ hs => ⟨h, hs⟩

lemma bind {r : Read α} {f : α → Read β} (hr : Obtains gs calls P r)
    (hf : ∀ a, P a → Obtains gs calls R (f a)) : Obtains gs calls R (r >>= f) :=
  fun s hs => (hr s hs).bind fun a s' ha hs' => hf a ha s' hs'

lemma get : Obtains gs calls (Sound gs calls) MonadState.get := fun _ hs => ⟨hs, hs⟩

lemma failAt (place : Nat) (flaw : Flaw) : Obtains gs calls Q (failAt place flaw) :=
  fun _ _ => trivial

lemma failBack (back : Nat) (flaw : Flaw) : Obtains gs calls Q (failBack back flaw) :=
  get.bind fun _ _ => failAt _ _

lemma failWith {f : Fault} (h : GoesBeyond gs f) : Obtains gs calls Q (failWith f) :=
  fun _ _ => h

lemma limited {r : Read α} (hr : Obtains gs calls Q r) : Limited gs calls r := by
  intro s hs
  have hends := hr s hs
  rcases h : r s with (flaw | f) | ⟨a, s'⟩
  · trivial
  · rw [h] at hends
    exact hends
  · rw [h] at hends
    exact ⟨trivial, hends.2⟩

end Obtains

namespace Limited

variable {r : Read α} {f : α → Read β}

lemma pure (a : α) : Limited gs calls (Pure.pure a) := Obtains.pure trivial

lemma bind (hr : Limited gs calls r) (hf : ∀ a, Limited gs calls (f a)) :
    Limited gs calls (r >>= f) :=
  Obtains.bind hr fun a _ => hf a

/-- A step that obtains values with a property, and one that depends on this. -/
lemma bind_of_obtains {P : α → Prop} (hr : Obtains gs calls P r)
    (hf : ∀ a, P a → Limited gs calls (f a)) : Limited gs calls (r >>= f) :=
  Obtains.bind hr hf

lemma discard (hr : Limited gs calls r) : Limited gs calls (discard r) := by
  show Limited gs calls ((fun _ => ()) <$> r)
  rw [map_eq_pure_bind]
  exact hr.bind fun _ => .pure _

lemma get : Limited gs calls MonadState.get := Obtains.get.limited

lemma set {s : Source} (h : Sound gs calls s) : Limited gs calls (MonadStateOf.set s) :=
  fun _ _ => ⟨trivial, h⟩

lemma modify {g : Source → Source} (h : ∀ s, Sound gs calls s → Sound gs calls (g s)) :
    Limited gs calls (modify g : Read Unit) :=
  fun s hs => ⟨trivial, h s hs⟩

lemma failAt (place : Nat) (flaw : Flaw) : Limited gs calls (failAt place flaw : Read α) :=
  Obtains.failAt _ _

lemma failBack (back : Nat) (flaw : Flaw) : Limited gs calls (failBack back flaw : Read α) :=
  Obtains.failBack _ _

lemma failWith {f : Fault} (h : GoesBeyond gs f) : Limited gs calls (failWith f : Read α) :=
  Obtains.failWith h

end Limited

end

/-! ### Glyphs -/

lemma skip_limited (n : Nat) : Limited gs calls (skip n) := by
  refine .bind_of_obtains .get fun s hs => ?_
  cases s.danglingAt? (n + 1) with
  | none => exact .set (hs.after n)
  | some place => exact .failAt _ _

lemma peek_obtains : Obtains gs calls (fun g => ∀ x, g = some x → x ∈ gs) peek := by
  refine .bind .get fun s hs => .pure ?_
  intro x hx
  exact hs.suffix.subset (List.mem_of_mem_head? hx)

lemma peek_limited : Limited gs calls peek := peek_obtains.limited

lemma tell_limited : Limited gs calls tell := fun _ hs => ⟨trivial, hs⟩

lemma take_obtains : Obtains gs calls (fun g => ∀ x, g = some x → x ∈ gs) take :=
  peek_obtains.bind fun _ hg => Obtains.bind (skip_limited 1) fun _ _ => .pure hg

lemma take_limited : Limited gs calls take := take_obtains.limited

lemma accept_limited (c : Char) : Limited gs calls (accept c) := by
  refine peek_limited.bind fun g => ?_
  split
  · exact (skip_limited 1).bind fun _ => .pure _
  · exact .pure _

/-- Characters of a kind that stand in the text in a row. -/
structure Row (gs : List Glyph) (p : Char → Bool) (cs : List Char) : Prop where
  isInfix : cs.map .plain <:+: gs
  all : ∀ c ∈ cs, p c

lemma takeWhile_prefix (p : Char → Bool) (ahead : List Glyph) :
    let cs := ((ahead.map plain?).takeWhile (·.any p)).filterMap id
    cs.map .plain <+: ahead ∧ ∀ c ∈ cs, p c := by
  induction ahead with
  | nil => simp
  | cons g ahead ih =>
    cases g with
    | plain c =>
      by_cases hc : p c
      · simpa [plain?, hc] using ih
      · simp [plain?, hc]
    | _ => simp [plain?]

lemma takeWhile_obtains (limit : Nat) (p : Char → Bool) :
    Obtains gs calls (Row gs p) (takeWhile limit p) := by
  refine .bind .get fun s hs => Obtains.bind (skip_limited _) fun _ _ => .pure ?_
  obtain ⟨hstart, hall⟩ := takeWhile_prefix p (s.ahead.take limit)
  exact ⟨hs.infix_of_prefix (hstart.trans (List.take_prefix _ _)), hall⟩

lemma takeWhile_limited (limit : Nat) (p : Char → Bool) : Limited gs calls (takeWhile limit p) :=
  (takeWhile_obtains _ _).limited

lemma takeThrough?_limited (close : Char) : Limited gs calls (takeThrough? close) := by
  refine Limited.get.bind fun s => ?_
  dsimp only
  split
  · exact (skip_limited _).bind fun _ => .pure _
  · exact (skip_limited _).bind fun _ => .pure _

lemma takeName_limited (close : Char) (what : String) :
    Limited gs calls (takeName close what) := by
  refine tell_limited.bind fun start => (takeThrough?_limited close).bind fun name => ?_
  split
  · exact .failAt _ _
  · exact .pure _
  · refine tell_limited.bind fun here => ?_
    split <;> exact .failAt _ _

/-! ### Groups -/

lemma checkLookbehind_limited (index : Nat) : Limited gs calls (checkLookbehind index) := by
  refine Limited.get.bind fun s => ?_
  split
  · exact .pure _
  · split
    · exact .failBack _ _
    · split
      · exact .failBack _ _
      · exact .pure _

lemma openGroup_limited (name : Option String) : Limited gs calls (openGroup name) := by
  refine .bind_of_obtains .get fun s hs => ?_
  have hset (widths : List (Option Width)) (names : List (String × Nat)) :
      Sound gs calls { s with widths, names } := hs.of_suffix (List.suffix_refl _) rfl
  dsimp only
  split
  · exact .bind (.set (hset _ _)) fun _ => .pure _
  · split
    · exact .bind (.failBack _ _) fun _ => .pure _
    · exact .bind (.set (hset _ _)) fun _ => .pure _

lemma closeGroup_limited (index : Nat) (width : Width) :
    Limited gs calls (closeGroup index width) :=
  .modify fun _ hs => hs.of_suffix (List.suffix_refl _) rfl

lemma widthHere_limited (r : Regex) : Limited gs calls (widthHere r) :=
  .bind .get fun _ => .pure _

/-! ### Escapes -/

lemma hexEscape_limited (start : Nat) (c : Char) {count : Nat} (hcount : count ≤ 8) :
    Limited gs calls (hexEscape start c count) := by
  refine .bind_of_obtains (takeWhile_obtains _ _) fun ds hds => ?_
  split
  · exact .failAt _ _
  · split
    · exact .failWith (.codePoint hds.isInfix hds.all (by omega) ‹_›)
    · split
      · exact .failAt _ _
      · exact .pure _

lemma nameEscape_limited (start : Nat) : Limited gs calls (nameEscape start) := by
  refine (accept_limited _).bind fun opened => ?_
  split
  · exact .failBack _ _
  · refine (takeName_limited _ _).bind fun name => ?_
    split
    · exact .pure _
    · exact .failAt _ _

lemma plainEscape_limited (start : Nat) (c : Char) : Limited gs calls (plainEscape start c) := by
  unfold plainEscape
  split
  · exact .failAt _ _
  · exact .pure _

lemma codeEscape_limited (start : Nat) (c : Char) : Limited gs calls (codeEscape start c) := by
  unfold codeEscape
  split
  · exact hexEscape_limited _ _ (by decide)
  · exact hexEscape_limited _ _ (by decide)
  · exact hexEscape_limited _ _ (by decide)
  · exact nameEscape_limited _
  · exact plainEscape_limited _ _

lemma setEscape_limited (asciiOnly : Bool) (start : Nat) (c : Char) :
    Limited gs calls (setEscape asciiOnly start c) := by
  unfold setEscape
  split
  · exact .pure _
  · exact .pure _
  · split
    · refine (takeWhile_limited _ _).bind fun ds => ?_
      dsimp only
      split
      · exact .failAt _ _
      · exact .pure _
    · exact (codeEscape_limited _ _).bind fun _ => .pure _

lemma groupReference_limited (flags : Flags) (start : Nat) (ds : List Char) :
    Limited gs calls (groupReference flags start ds) := by
  refine Limited.get.bind fun s => ?_
  split
  · exact .failAt _ _
  · split
    · exact .failAt _ _
    · exact (checkLookbehind_limited _).bind fun _ => .pure _

lemma digitEscape_limited (flags : Flags) (start : Nat) (c : Char) :
    Limited gs calls (digitEscape flags start c) := by
  unfold digitEscape
  dsimp only
  split
  · exact (takeWhile_limited _ _).bind fun _ => .pure _
  · refine (takeWhile_limited _ _).bind fun second => ?_
    split
    · refine (takeWhile_limited _ _).bind fun third => ?_
      split
      · exact groupReference_limited _ _ _
      · split
        · exact .failAt _ _
        · exact .pure _
    · exact groupReference_limited _ _ _

lemma escape_limited (flags : Flags) (start : Nat) (c : Char) :
    Limited gs calls (escape flags start c) := by
  unfold escape
  split
  · exact .pure _
  · exact .pure _
  · exact .pure _
  · split
    · exact (digitEscape_limited _ _ _).bind fun _ => .pure _
    · exact (codeEscape_limited _ _).bind fun _ => .pure _

/-! ### Sets -/

lemma setMember_limited (asciiOnly : Bool) (start : Nat) (g : Glyph) :
    Limited gs calls (setMember asciiOnly start g) := by
  cases g with
  | plain c => exact .pure _
  | escaped c => exact setEscape_limited _ _ _
  | dangling => exact .failAt _ _

lemma setRange_limited (first last : Glyph) (lo hi : SetItem) :
    Limited gs calls (setRange first last lo hi) := by
  unfold setRange
  dsimp only
  split
  · split
    · exact .failBack _ _
    · exact .pure _
  · exact .failBack _ _

lemma setItems_limited (asciiOnly : Bool) (start fuel : Nat) (items : List SetItem) :
    Limited gs calls (setItems asciiOnly start fuel items) := by
  induction fuel generalizing items with
  | zero => exact .failAt _ _
  | succ fuel ih =>
    refine tell_limited.bind fun here => take_limited.bind fun first => ?_
    split
    · exact .failAt _ _
    · split
      · exact .pure _
      · refine (setMember_limited _ _ _).bind fun lo => (accept_limited _).bind fun range => ?_
        split
        · refine tell_limited.bind fun there => take_limited.bind fun last => ?_
          split
          · exact .failAt _ _
          · split
            · exact .pure _
            · refine (setMember_limited _ _ _).bind fun hi => ?_
              exact (setRange_limited _ _ _ _).bind fun _ => ih _
        · exact ih _

lemma charSet_limited (flags : Flags) (start : Nat) : Limited gs calls (charSet flags start) := by
  refine (accept_limited _).bind fun negated => .bind .get fun s => ?_
  refine (setItems_limited _ _ _ _).bind fun items => ?_
  split <;> exact .pure _

/-! ### Repetitions -/

lemma decimal_obtains {ds : List Char} (hds : Row gs Char.isDigit ds) :
    Obtains gs calls (· = numberOf 10 ds) (decimal ds) := by
  unfold decimal
  split
  · exact .failWith (.digits hds.isInfix hds.all ‹_›)
  · exact .pure rfl

lemma repeatCount_limited {ds : List Char} (hds : Row gs Char.isDigit ds) :
    Limited gs calls (repeatCount ds) := by
  unfold repeatCount
  split
  · exact .pure _
  · refine .bind_of_obtains (decimal_obtains hds) fun n hn => ?_
    split
    · exact .failWith (.count hds.isInfix hds.all (hn ▸ ‹_›))
    · exact .pure _

lemma braceCounts?_limited : Limited gs calls braceCounts? := by
  refine .bind_of_obtains .get fun start hstart => ?_
  split
  · exact .pure _
  · refine .bind_of_obtains (takeWhile_obtains _ _) fun lo hlo => ?_
    refine (accept_limited _).bind fun comma => ?_
    extract_lets rest
    have hrest : ∀ hi, Row gs Char.isDigit hi → Limited gs calls (rest hi) := by
      intro hi hhi
      refine (accept_limited _).bind fun closed => ?_
      split
      · exact .bind (.set hstart) fun _ => .pure _
      · refine (repeatCount_limited hlo).bind fun least => ?_
        refine (repeatCount_limited hhi).bind fun most => ?_
        split
        · exact .pure _
        · split
          · exact .failAt _ _
          · exact .pure _
    split
    · exact .bind_of_obtains (takeWhile_obtains _ _) hrest
    · exact .bind_of_obtains (.pure hlo) hrest

lemma repeatCounts?_limited (c : Char) : Limited gs calls (repeatCounts? c) := by
  unfold repeatCounts?
  split
  · exact .pure _
  · exact .pure _
  · exact .pure _
  · exact braceCounts?_limited

lemma greed_limited : Limited gs calls greed := by
  refine (accept_limited _).bind fun reluctant => ?_
  split
  · exact .pure _
  · refine (accept_limited _).bind fun possessive => ?_
    split <;> exact .pure _

lemma repetition_limited (start least : Nat) (most : Option Nat) (last : Option Item) :
    Limited gs calls (repetition start least most last) := by
  unfold repetition
  split
  · exact .failAt _ _
  · split
    · exact .failAt _ _
    · exact .failAt _ _
    · exact greed_limited.bind fun _ => .pure _

/-! ### Flags -/

lemma noFlag_obtains {α : Type} {Q : α → Prop} (g : Glyph) (otherwise : Flaw) :
    Obtains gs calls Q (noFlag g otherwise : Read α) :=
  .failBack _ _

lemma flagsOn_obtains (fuel : Nat) {flag on : Flags} (g : Glyph) (hflag : Backed gs flag)
    (hon : Backed gs on) :
    Obtains gs calls (fun p => Backed gs p.1) (flagsOn fuel flag g on) := by
  induction fuel generalizing flag g on with
  | zero => exact noFlag_obtains _ _
  | succ fuel ih =>
    have hunion := hon.union hflag
    unfold flagsOn
    split
    · exact .failBack _ _
    · dsimp only
      split
      · exact .failBack _ _
      · refine take_obtains.bind fun next hnext => ?_
        split
        · exact .failBack _ _
        · split
          · exact .pure hunion
          · split
            · exact noFlag_obtains _ _
            · exact ih _ (.of_flag? (hnext _ rfl) ‹_›) hunion

lemma flagsOff_limited (fuel : Nat) (flag : Flags) (g : Glyph) (off : Flags) :
    Limited gs calls (flagsOff fuel flag g off) := by
  induction fuel generalizing flag g off with
  | zero => exact noFlag_obtains _ _
  | succ fuel ih =>
    unfold flagsOff
    split
    · exact .failBack _ _
    · refine take_limited.bind fun next => ?_
      split
      · exact .failBack _ _
      · split
        · exact .pure _
        · split
          · exact noFlag_obtains _ _
          · exact ih _ _ _

/-! ### The beginnings of groups -/

lemma offPart_limited : Limited gs calls offPart := by
  refine take_limited.bind fun g => ?_
  split
  · exact .failBack _ _
  · split
    · exact noFlag_obtains _ _
    · exact Limited.get.bind fun _ => flagsOff_limited _ _ _ _

lemma flagsOpening_limited {first : Glyph} (hfirst : first ∈ gs) :
    Limited gs calls (flagsOpening first) := by
  unfold flagsOpening
  extract_lets rest
  have hrest : ∀ part : Flags × Glyph, Backed gs part.1 → Limited gs calls (rest part) := by
    rintro ⟨on, last⟩ hon
    dsimp only [rest]
    split
    · refine (Limited.modify fun s hs => ?_).bind fun _ => .pure _
      exact { suffix := hs.suffix, room := hs.room, backed := hs.backed.union hon }
    · split
      · exact .failBack _ _
      · have hoff (off : Flags) : Limited gs calls (
            if off.template then failBack 1 .wholeFlagOff
            else if on.overlap off then failBack 1 .flagOnAndOff
            else pure (.scoped on off) : Read Opening) := by
          split
          · exact .failBack _ _
          · split
            · exact .failBack _ _
            · exact .pure _
        split
        · exact offPart_limited.bind hoff
        · exact .bind (.pure _) hoff
  split
  · refine Limited.get.bind fun _ => .bind_of_obtains (flagsOn_obtains _ _ ?_ .none) hrest
    exact .of_flag? hfirst ‹_›
  · exact .bind_of_obtains (.pure .none) hrest

lemma checkGroupName_limited (name : String) : Limited gs calls (checkGroupName name) := by
  unfold checkGroupName
  split
  · exact .pure _
  · exact .failBack _ _

lemma namedOpening_limited : Limited gs calls namedOpening := by
  refine (accept_limited _).bind fun named => ?_
  split
  · refine (takeName_limited _ _).bind fun name => ?_
    exact (checkGroupName_limited _).bind fun _ => .pure _
  · refine (accept_limited _).bind fun reference => ?_
    split
    · refine (takeName_limited _ _).bind fun name => (checkGroupName_limited _).bind fun _ => ?_
      refine Limited.get.bind fun s => ?_
      split
      · exact .failBack _ _
      · split
        · exact .failBack _ _
        · exact (checkLookbehind_limited _).bind fun _ => .pure _
    · refine take_limited.bind fun g => ?_
      split <;> exact .failBack _ _

lemma conditionIndex_limited (name : String) : Limited gs calls (conditionIndex name) := by
  unfold conditionIndex
  split
  · refine Limited.get.bind fun s => ?_
    split
    · exact .failBack _ _
    · exact .pure _
  · split
    · exact .failBack _ _
    · exact .failBack _ _
    · split
      · exact .failBack _ _
      · split
        · exact .failBack _ _
        · dsimp only
          split
          · exact .failBack _ _
          · refine (Limited.modify fun s hs => ?_).bind fun _ => .pure _
            split
            · exact hs
            · exact hs.of_suffix (List.suffix_refl _) rfl

lemma behindOpening_limited : Limited gs calls behindOpening := by
  refine take_limited.bind fun g => ?_
  split
  · exact .failBack _ _
  · split
    · exact .pure _
    · split
      · exact .pure _
      · exact .failBack _ _

lemma opening_limited (start : Nat) : Limited gs calls (opening start) := by
  refine (accept_limited _).bind fun marked => ?_
  split
  · exact .pure _
  · refine .bind_of_obtains take_obtains fun g hg => ?_
    split
    · exact .failBack _ _
    · split
      · exact namedOpening_limited
      · exact .pure _
      · refine (takeThrough?_limited _).bind fun comment => ?_
        split
        · exact .pure _
        · exact .failAt _ _
      · exact .pure _
      · exact .pure _
      · exact behindOpening_limited
      · refine (takeName_limited _ _).bind fun name => (conditionIndex_limited _).bind fun i => ?_
        exact (checkLookbehind_limited _).bind fun _ => .pure _
      · exact .pure _
      · split
        · exact flagsOpening_limited (hg _ rfl)
        · exact .failBack _ _

/-! ### Sequences and alternations -/

lemma closing_limited (start : Nat) : Limited gs calls (closing start) := by
  refine (accept_limited _).bind fun closed => ?_
  split
  · exact .failAt _ _
  · exact .pure _

lemma simplePart_limited (flags : Flags) (start : Nat) (c : Char) (last : Option Item) :
    Limited gs calls (simplePart flags start c last) := by
  unfold simplePart
  dsimp only
  split
  · exact .pure _
  · exact .pure _
  · exact .pure _
  · exact (charSet_limited _ _).bind fun _ => .pure _
  · split
    · refine (repeatCounts?_limited _).bind fun counts => ?_
      split
      · exact .pure _
      · exact repetition_limited _ _ _ _
    · exact .pure _

/-- There is room for as many calls as the parentheses that have been passed over allow. -/
lemma enter_limited {n : Nat} (h : n ≤ calls) : Limited gs calls (enter n) := by
  intro s hs
  have hroom := hs.room
  unfold enter
  split
  · exact .nesting (by omega)
  · exact ⟨trivial, hs⟩

lemma peek_bind_limited {α : Type} {f : Option Glyph → Read α}
    (h : ∀ s, Sound gs calls s → Ends gs calls (fun _ => True) (f s.ahead.head? s)) :
    Limited gs calls (peek >>= f) := fun s hs => h s hs

/-- What comes after a glyph. If this is a parenthesis there is room for two more calls. -/
lemma ends_skip_bind {α : Type} {s : Source} {g : Glyph} {f : Unit → Read α}
    (hs : Sound gs calls s) (hg : s.ahead.head? = some g)
    (h : ∀ room, calls ≤ room → (g = .plain '(' → calls + 2 ≤ room) → Limited gs room (f ())) :
    Ends gs calls (fun _ => True) ((skip 1 >>= f) s) := by
  show Ends gs calls _ (skip 1 s >>= fun p => f p.1 p.2)
  rw [skip, bind_of_ok (get_eq s)]
  cases s.danglingAt? 2 with
  | some place => trivial
  | none =>
    show Ends gs calls _ (f () (s.after 1))
    by_cases hparen : g = .plain '('
    · have hle : calls ≤ calls + 2 := Nat.le_add_right _ _
      exact (h _ hle (fun _ => le_rfl) _ (hs.open_after (hparen ▸ hg))).mono hle
    · exact h _ le_rfl (fun hg => absurd hg hparen) _ (hs.after 1)

mutual

lemma alternation_limited (fuel : Nat) (flags : Flags) {n calls : Nat} (first : Bool)
    (h : n + 2 ≤ calls) : Limited gs calls (alternation fuel flags n first) := by
  match fuel with
  | 0 => exact .pure _
  | fuel + 1 =>
    refine (enter_limited h).bind fun _ => Limited.get.bind fun source => ?_
    refine (sequence_limited fuel _ _ _ h).bind fun r => (accept_limited _).bind fun more => ?_
    split
    · exact (alternation_limited fuel _ _ h).bind fun _ => .pure _
    · exact .pure _

lemma sequence_limited (fuel : Nat) (flags : Flags) {n calls : Nat} (first : Bool)
    (done : List Item) (h : n ≤ calls) : Limited gs calls (sequence fuel flags n first done) := by
  match fuel with
  | 0 => exact .pure _
  | fuel + 1 =>
    refine tell_limited.bind fun start => ?_
    refine peek_bind_limited fun s hs => ?_
    rcases hhead : s.ahead.head? with _ | c | c | _
    · exact ⟨trivial, hs⟩
    · dsimp -zeta only
      split
      · exact ⟨trivial, hs⟩
      · -- a parenthesis that is passed over makes room for the two calls that read its group
        refine ends_skip_bind hs hhead fun room hroom hopen => ?_
        have hrest (flags : Flags) (done : List Item) : Limited gs room
            (sequence fuel flags n first done) := sequence_limited fuel _ _ _ (h.trans hroom)
        split
        · exact hrest _ _
        · split
          · exact (takeThrough?_limited _).discard.bind fun _ => hrest _ _
          · split
            · have hinside : n + 2 ≤ room := by
                have := hopen (congrArg Glyph.plain ‹_›)
                omega
              have hinner (flags : Flags) : Limited gs room (alternation fuel flags n false) :=
                alternation_limited fuel _ _ hinside
              have hbranch (flags : Flags) : Limited gs room
                  (sequence fuel flags (n + 1) false []) :=
                sequence_limited fuel _ _ _ ((Nat.le_succ _).trans hinside)
              refine (opening_limited _).bind fun kind => ?_
              cases kind with
              | comment => exact hrest _ _
              | flags =>
                dsimp -zeta only
                split
                · exact .failAt _ _
                · exact Limited.get.bind fun _ => hrest _ _
              | reference index => exact hrest _ _
              | capture name =>
                refine (openGroup_limited _).bind fun index => (hinner _).bind fun r => ?_
                refine (closing_limited _).bind fun _ => (widthHere_limited _).bind fun width => ?_
                exact (closeGroup_limited _ _).bind fun _ => hrest _ _
              | bare => exact (hinner _).bind fun r => (closing_limited _).bind fun _ => hrest _ _
              | «scoped» on off =>
                exact (hinner _).bind fun r => (closing_limited _).bind fun _ => hrest _ _
              | atomic => exact (hinner _).bind fun r => (closing_limited _).bind fun _ => hrest _ _
              | look behind negated =>
                -- `behind` is set inside and restored behind, which is no matter of the place
                refine Limited.get.bind fun s => ?_
                extract_lets outer add look
                have hlook : ∀ u, Limited gs room (look u) := by
                  intro u
                  refine (hinner _).bind fun r => ?_
                  refine (Limited.modify fun s hs => ?_).bind fun _ => ?_
                  · exact hs.of_suffix (List.suffix_refl _) rfl
                  · refine (closing_limited _).bind fun _ => ?_
                    split
                    · refine (widthHere_limited _).bind fun width => ?_
                      exact .bind (.pure _) fun r => hrest _ _
                    · exact .bind (.pure _) fun r => hrest _ _
                split
                · refine (Limited.modify fun s hs => ?_).bind hlook
                  exact hs.of_suffix (List.suffix_refl _) rfl
                · exact hlook ()
              | conditional index =>
                refine (enter_limited ((Nat.le_succ _).trans hinside)).bind fun _ => ?_
                refine (hbranch _).bind fun yes => (accept_limited _).bind fun bar => ?_
                extract_lets close
                have hclose : ∀ no, Limited gs room (close no) := by
                  intro no
                  refine peek_limited.bind fun g => ?_
                  split
                  · exact .failBack _ _
                  · exact (closing_limited _).bind fun _ => hrest _ _
                split
                · exact (hbranch _).bind hclose
                · exact .bind (.pure _) hclose
            · exact (simplePart_limited _ _ _ _).bind fun _ => hrest _ _
    · refine ends_skip_bind hs hhead fun room hroom _ => ?_
      exact (escape_limited _ _ _).bind fun _ => sequence_limited fuel _ _ _ (h.trans hroom)
    · trivial

end

/-! ### Whole patterns -/

lemma readWhole_limited (fuel : Nat) : Limited gs 2 (readWhole fuel) := by
  refine (skip_limited _).bind fun _ => ?_
  refine (alternation_limited _ _ _ le_rfl).bind fun regex => ?_
  refine .bind_of_obtains .get fun s hs => ?_
  split
  · rename_i hflags
    obtain ⟨hascii, hunicode⟩ := Bool.and_eq_true_iff.mp hflags
    exact .failWith (.flags (hs.backed.ascii hascii) (hs.backed.unicode hunicode))
  · split
    · exact .failBack _ _
    · split
      · exact .failAt _ _
      · split
        · exact fun _ _ => trivial
        · exact .pure _

/-- Reading a pattern has no faults but those of the limits. -/
lemma read_goesBeyond {pattern : String} {f : Fault} (h : read pattern = .error (.fault f)) :
    GoesBeyond (Glyph.ofString pattern) f := by
  have hstart : Sound (Glyph.ofString pattern) 2 { ahead := Glyph.ofString pattern } :=
    ⟨List.suffix_refl _, Nat.le_of_eq (Nat.add_comm _ _), .none⟩
  have hends := readWhole_limited (2 * (Glyph.ofString pattern).length + 3) _ hstart
  change (·.1) <$> readWhole (2 * (Glyph.ofString pattern).length + 3)
    { ahead := Glyph.ofString pattern } = _ at h
  rcases hread : readWhole (2 * (Glyph.ofString pattern).length + 3)
    { ahead := Glyph.ofString pattern } with (flaw | g) | ⟨program, s⟩
  · rw [hread] at h
    cases h
  · rw [hread] at h hends
    cases h
    exact hends
  · rw [hread] at h
    cases h

/-! ### Strict ends go beyond no limit -/

section

variable {es : List Bool}

lemma mark_eq_plain_iff {g : Glyph} {e : Bool} {c : Char} :
    Part.mark g e = .plain c ↔ e = false ∧ g = .plain c := by
  cases e <;> simp [Part.mark]

lemma prefix_of_mark {cs : List Char} (h : cs.map .plain <+: List.zipWith Part.mark gs es) :
    cs.map .plain <+: gs := by
  induction cs generalizing gs es with
  | nil => exact List.nil_prefix
  | cons c cs ih =>
    cases gs with
    | nil => simp at h
    | cons g gs =>
      cases es with
      | nil => simp at h
      | cons e es =>
        rw [List.map_cons, List.zipWith_cons_cons, List.cons_prefix_cons] at h
        rw [List.map_cons, List.cons_prefix_cons]
        exact ⟨(mark_eq_plain_iff.mp h.1.symm).2.symm, ih h.2⟩

lemma infix_of_mark {cs : List Char} (h : cs.map .plain <:+: List.zipWith Part.mark gs es) :
    cs.map .plain <:+: gs := by
  induction gs generalizing es with
  | nil => simpa using h
  | cons g gs ih =>
    cases es with
    | nil => exact (List.infix_nil.mp h) ▸ List.nil_infix
    | cons e es =>
      rw [List.zipWith_cons_cons, List.infix_cons_iff, ← List.zipWith_cons_cons] at h
      rw [List.infix_cons_iff]
      exact h.imp prefix_of_mark ih

lemma count_mark_le (c : Char) :
    (List.zipWith Part.mark gs es).count (.plain c) ≤ gs.count (.plain c) := by
  induction gs generalizing es with
  | nil => simp
  | cons g gs ih =>
    cases es with
    | nil => simp
    | cons e es =>
      rw [List.zipWith_cons_cons, List.count_cons, List.count_cons]
      refine Nat.add_le_add ih ?_
      simp only [beq_iff_eq, mark_eq_plain_iff]
      split_ifs with hmark hg
      · exact le_rfl
      · exact absurd hmark.2 hg
      · exact Nat.zero_le _
      · exact le_rfl

lemma GoesBeyond.of_mark {f : Fault} (h : GoesBeyond (List.zipWith Part.mark gs es) f) :
    GoesBeyond gs f := by
  have hmem {c : Char} (hc : .plain c ∈ List.zipWith Part.mark gs es) : .plain c ∈ gs :=
    List.count_pos_iff.mp ((List.count_pos_iff.mpr hc).trans_le (count_mark_le c))
  cases h with
  | digits hrow hdigits hlong => exact .digits (infix_of_mark hrow) hdigits hlong
  | count hrow hdigits hlarge => exact .count (infix_of_mark hrow) hdigits hlarge
  | codePoint hrow hdigits hlength hlarge =>
    exact .codePoint (infix_of_mark hrow) hdigits hlength hlarge
  | flags ha hu => exact .flags (hmem ha) (hmem hu)
  | nesting hcalls =>
    have hcount := @count_mark_le gs es '('
    exact .nesting (by omega)

end

lemma exists_ofString_strictEnd (pattern : String) :
    ∃ es, Glyph.ofString (strictEnd pattern) =
      List.zipWith Part.mark (Glyph.ofString pattern) es := by
  obtain ⟨ps, hps⟩ := exists_reads .carets (Glyph.ofString pattern)
  refine ⟨ps.flatMap Part.ends, ?_⟩
  have htext : strictEnd pattern = Part.text (ps.map Part.strict) :=
    congrArg String.ofList (strictGlyphs_of_reads hps)
  rw [htext, hps.ofString_text, Part.flatMap_glyphs_strict, hps.flatMap_glyphs]

lemma readFor_fault_iff {shown pattern : String} {f : Fault} :
    readFor shown pattern = .error (.fault f) ↔ read pattern = .error (.fault f) := by
  unfold readFor
  rcases read pattern with (flaw | g) | program <;> simp

/-- The faults of compiling a pattern are those of the limits that its text goes beyond. -/
theorem compile_goesBeyond {pattern : String} {f : Fault}
    (h : compile pattern = .error (.fault f)) : GoesBeyond (Glyph.ofString pattern) f := by
  unfold compile at h
  cases hfirst : readFor pattern pattern with
  | error e =>
    rw [hfirst] at h
    obtain rfl : e = .fault f := Except.error.inj h
    exact read_goesBeyond (readFor_fault_iff.mp hfirst)
  | ok p =>
    rw [hfirst] at h
    change (if p.flags.multiline then pure p else readFor pattern (strictEnd pattern)) = _ at h
    split at h
    · cases h
    · obtain ⟨es, hes⟩ := exists_ofString_strictEnd pattern
      have hbeyond := read_goesBeyond (readFor_fault_iff.mp h)
      rw [hes] at hbeyond
      exact hbeyond.of_mark

/-- Compiling a pattern ends with a fault, and the text of the pattern goes beyond the limit that
the fault is about. -/
structure Exceeds (pattern : String) (f : Fault) : Prop where
  stops : compile pattern = .error (.fault f)
  beyond : GoesBeyond (Glyph.ofString pattern) f

lemma compile_fault_iff {pattern : String} {f : Fault} :
    compile pattern = .error (.fault f) ↔ Exceeds pattern f :=
  ⟨fun h => ⟨h, compile_goesBeyond h⟩, Exceeds.stops⟩

/-- A text has at least as many parentheses as a pattern that goes beyond the limit of nesting. -/
lemma Exceeds.callLimit_lt {pattern : String} (h : Exceeds pattern .nestedTooDeep) :
    callLimit < 2 * pattern.toList.count '(' + 2 := by
  have hchars (gs : List Glyph) : gs.count (.plain '(') ≤ (Glyph.toChars gs).count '(' := by
    induction gs with
    | nil => exact le_rfl
    | cons g gs ih =>
      rw [Glyph.toChars_cons, List.count_append, List.count_cons, Nat.add_comm]
      refine Nat.add_le_add ?_ ih
      by_cases hg : g = .plain '('
      · simp [hg, Glyph.chars]
      · simp [hg]
  have hcount := hchars (Glyph.ofString pattern)
  rw [Glyph.ofString, Glyph.toChars_ofChars] at hcount
  cases h.beyond with
  | nesting hcalls =>
    rw [Glyph.ofString] at hcalls
    omega

/-! ### Groups inside each other -/

lemma enter_of_lt {n : Nat} (h : callLimit < n) (s : Source) :
    enter n s = .error (.fault .nestedTooDeep) := by
  rw [enter, if_pos h]
  rfl

lemma openGroup_eq (s : Source) :
    openGroup none s = .ok (s.groupCount, { s with widths := s.widths ++ [none] }) := rfl

/-- A parenthesis before another one opens a group, which fails if what is in it fails. -/
lemma sequence_parentheses {fuel n : Nat} {flags : Flags} {s : Source} {rest : List Glyph}
    {f : Failure} (hs : s.ahead = .plain '(' :: .plain '(' :: rest)
    (hinner : ∀ t : Source, t.ahead = .plain '(' :: rest →
      alternation fuel flags n false t = .error f) (first : Bool) (done : List Item) :
    sequence (fuel + 1) flags n first done s = .error f := by
  have hpeek : peek s = .ok (some (.plain '('), s) := by
    rw [peek_eq, hs, List.head?_cons]
  have hskip : skip 1 s = .ok ((), s.after 1) :=
    skip_of_danglingAt?_eq_none (by simp [Source.danglingAt?, hs])
  have hahead : (s.after 1).ahead = .plain '(' :: rest := by
    simp [Source.after, hs]
  have hopening : opening s.place (s.after 1) = .ok (.capture none, s.after 1) := by
    have haccept : accept '?' (s.after 1) = .ok (false, s.after 1) := by
      rw [accept, bind_of_ok (peek_eq _), hahead]
      rfl
    rw [opening, bind_of_ok haccept]
    rfl
  have hlayout : isLayout '(' = false := by decide
  rw [sequence, bind_of_ok (tell_eq s), bind_of_ok hpeek]
  dsimp only
  rw [if_neg (by decide), bind_of_ok hskip, if_neg (by simp [hlayout]), if_neg (by simp),
    if_pos rfl, bind_of_ok hopening]
  dsimp only
  rw [bind_of_ok (openGroup_eq (s.after 1))]
  exact bind_of_error (hinner { s.after 1 with widths := (s.after 1).widths ++ [none] } hahead) _

/-- Parentheses that open more groups inside each other than there is room for. -/
lemma alternation_nested (k : Nat) {fuel n : Nat} {s : Source} {rest : List Glyph}
    (hs : s.ahead = List.replicate (k + 1) (.plain '(') ++ rest) (hfuel : 2 * k < fuel)
    (hcalls : callLimit < n + 2 + 2 * k) (flags : Flags) (first : Bool) :
    alternation fuel flags n first s = .error (.fault .nestedTooDeep) := by
  induction k generalizing fuel n s flags first with
  | zero =>
    obtain ⟨fuel, rfl⟩ := Nat.exists_eq_add_of_lt hfuel
    rw [alternation, bind_of_error (enter_of_lt hcalls s)]
  | succ k ih =>
    obtain ⟨fuel, rfl⟩ : ∃ m, fuel = m + 1 + 1 := ⟨fuel - 2, by omega⟩
    rw [alternation]
    -- either there is no room any more, or the parenthesis opens a group with two calls less
    by_cases hroom : callLimit < n + 2
    · rw [bind_of_error (enter_of_lt hroom s)]
    · have henter : enter (n + 2) s = .ok ((), s) := by
        rw [enter, if_neg hroom]
        rfl
      rw [bind_of_ok henter, bind_of_ok (get_eq s)]
      refine bind_of_error (sequence_parentheses hs (fun t ht => ?_) _ _) _
      exact ih ht (by omega) (by omega) _ _

/-- A pattern that opens more groups inside each other than there is room for is not read. -/
lemma compile_nested {n : Nat} (h : callLimit < 2 * n) {pattern : String} {rest : List Glyph}
    (hpattern : Glyph.ofString pattern = List.replicate n (.plain '(') ++ rest) :
    compile pattern = .error (.fault .nestedTooDeep) := by
  obtain ⟨k, rfl⟩ : ∃ k, n = k + 1 := ⟨n - 1, by omega⟩
  have hread : read pattern = .error (.fault .nestedTooDeep) := by
    let s : Source := { ahead := Glyph.ofString pattern }
    have hs : s.ahead = List.replicate (k + 1) (.plain '(') ++ rest := hpattern
    have hlength : k + 1 ≤ (Glyph.ofString pattern).length := by
      rw [hpattern, List.length_append, List.length_replicate]
      exact Nat.le_add_right _ _
    have hskip : skip 0 s = .ok ((), s.after 0) :=
      skip_of_danglingAt?_eq_none (by simp [Source.danglingAt?, hs, List.replicate_succ])
    have halternation := @alternation_nested k (2 * (Glyph.ofString pattern).length + 3) 0
      (s.after 0) rest hs (by omega) (by omega) {} true
    have hwhole : readWhole (2 * (Glyph.ofString pattern).length + 3) s =
        .error (.fault .nestedTooDeep) := by
      rw [readWhole, bind_of_ok hskip, bind_of_error halternation]
    show (·.1) <$> readWhole (2 * (Glyph.ofString pattern).length + 3) s = _
    rw [hwhole]
    rfl
  rw [compile, readFor_fault_iff.mpr hread]
  rfl

end ValueSpec.Pattern
