import Mathlib.Data.List.Infix
import ValueSpec.Proofs.Decoding
import ValueSpec.Proofs.Refusals

/-!
# Pairs between braces

A pattern and its description are written between braces as pairs, which commas separate. Each pair
is ended by a comma, the last one by a comma that is added, and what a comma ends must have a colon
and something before it. So all segments are checked unless a backslash stands before the closing
brace, which takes its meaning from the comma that is added: then the last segment is in no pair.
The colon is sought after the escapes have been decoded, so that one with a backslash will do.
-/

namespace ValueSpec

/-! ### Records -/

/-- Of a name that is given several times the last value counts. -/
lemma Record.get?_overlay {α : Type} (r upper : Record α) (name : String) :
    (r.overlay upper).get? name = (upper.reverse.lookup name).or (r.get? name) := by
  induction upper using List.reverseRecOn with
  | nil => rfl
  | append_singleton upper e ih =>
    have hset : r.overlay (upper ++ [e]) = (r.overlay upper).set e.1 e.2 := by
      simp [overlay, List.foldl_append]
    rw [hset, get?_set, ih, List.reverse_concat, List.lookup_cons]
    by_cases h : name = e.1
    · simp [h]
    · simp [h, beq_eq_false_iff_ne.mpr h]

namespace PatternArgument

/-! ### The first occurrence of a mark -/

section

variable {m : Char} {ms : List Char}

lemma isPrefixOf_eq_false_iff {mark cs : List Char} :
    mark.isPrefixOf cs = false ↔ ¬ mark <+: cs := by
  rw [Bool.eq_false_iff, ne_eq, List.isPrefixOf_iff_prefix]

lemma partition?_cons {c : Char} {cs : List Char} (h : ¬ (m :: ms) <+: c :: cs) :
    partition? (m :: ms) (c :: cs) =
      (partition? (m :: ms) cs).map (Prod.map (c :: ·) id) := by
  rw [partition?, isPrefixOf_eq_false_iff.mpr h, if_neg (by simp)]
  rfl

lemma partition?_eq_none_iff {cs : List Char} :
    partition? (m :: ms) cs = none ↔ ¬ (m :: ms) <:+: cs := by
  induction cs with
  | nil => simp [partition?]
  | cons c cs ih =>
    rw [List.infix_cons_iff, not_or, ← ih]
    by_cases hstarts : (m :: ms) <+: c :: cs
    · simp [partition?, List.isPrefixOf_iff_prefix.mpr hstarts, hstarts]
    · simp [partition?_cons hstarts, hstarts]

/-- A mark whose first character comes only once in it cannot begin in a text and end in the mark
that stands behind the text. -/
lemma not_prefix_append (hm : m ∉ ms) {cs : List Char} (hne : cs ≠ [])
    (h : ¬ (m :: ms) <+: cs) (after : List Char) :
    ¬ (m :: ms) <+: cs ++ (m :: ms) ++ after := by
  intro hstarts
  rw [List.append_assoc] at hstarts
  rcases Nat.le_total (m :: ms).length cs.length with hle | hle
  · exact h (List.prefix_of_prefix_length_le hstarts (List.prefix_append _ _) hle)
  · obtain ⟨t, ht⟩ := List.prefix_of_prefix_length_le (List.prefix_append cs _) hstarts hle
    rw [← ht, List.prefix_append_right_inj, ht] at hstarts
    cases t with
    | nil =>
      rw [List.append_nil] at ht
      exact h (ht ▸ List.prefix_refl cs)
    | cons d t =>
      obtain ⟨c, rest, rfl⟩ := List.exists_cons_of_ne_nil hne
      obtain ⟨-, rfl⟩ : c = m ∧ rest ++ d :: t = ms := by simpa using ht
      rw [List.cons_append, List.cons_prefix_cons] at hstarts
      exact hm (by simp [hstarts.1])

/-- A text without a mark, the mark and anything after it are cut there. -/
lemma partition?_append (hm : m ∉ ms) {cs : List Char} (h : ¬ (m :: ms) <:+: cs)
    (after : List Char) : partition? (m :: ms) (cs ++ (m :: ms) ++ after) = some (cs, after) := by
  induction cs with
  | nil => simp [partition?]
  | cons c cs ih =>
    rw [List.infix_cons_iff, not_or] at h
    have hstarts := not_prefix_append hm (List.cons_ne_nil c cs) h.1 after
    simp only [List.cons_append] at hstarts ih ⊢
    rw [partition?_cons hstarts, ih h.2]
    rfl

/-- A text is cut around the first occurrence of a mark. -/
lemma of_partition?_eq_some {cs before after : List Char}
    (h : partition? (m :: ms) cs = some (before, after)) :
    cs = before ++ (m :: ms) ++ after ∧ ¬ (m :: ms) <:+: before := by
  induction cs generalizing before with
  | nil => simp [partition?] at h
  | cons c cs ih =>
    by_cases hstarts : (m :: ms) <+: c :: cs
    · rw [partition?, if_pos (List.isPrefixOf_iff_prefix.mpr hstarts)] at h
      obtain ⟨rest, hrest⟩ := hstarts
      obtain ⟨rfl, rfl⟩ : [] = before ∧ (c :: cs).drop (m :: ms).length = after := by simpa using h
      rw [← hrest, List.drop_left]
      simp
    · rw [partition?_cons hstarts] at h
      obtain ⟨⟨front, tail⟩, hcut, ⟨⟩⟩ := Option.map_eq_some_iff.mp h
      obtain ⟨rfl, hnot⟩ := ih hcut
      refine ⟨rfl, ?_⟩
      rw [List.infix_cons_iff, not_or]
      refine ⟨fun hhead => hstarts ?_, hnot⟩
      exact hhead.trans ⟨(m :: ms) ++ tail, by simp⟩

end

/-! ### Segments -/

/-- The segments of glyphs between the commas that are not escaped. -/
def segments (gs : List Glyph) : List (List Glyph) := gs.splitOn (.plain ',')

lemma segments_ne_nil (gs : List Glyph) : segments gs ≠ [] := List.splitOn_ne_nil _ gs

lemma segments_cons_comma (gs : List Glyph) : segments (.plain ',' :: gs) = [] :: segments gs := by
  simp [segments, List.splitOn_cons_eq_if_modifyHead]

lemma segments_cons {g : Glyph} (hg : g ≠ .plain ',') (gs : List Glyph) :
    segments (g :: gs) = (segments gs).modifyHead (g :: ·) := by
  simp [segments, List.splitOn_cons_eq_if_modifyHead, hg]

lemma segments_append_comma (gs hs : List Glyph) :
    segments (gs ++ .plain ',' :: hs) = segments gs ++ segments hs :=
  List.splitOn_append_cons_self gs hs

lemma segments_eq_singleton {gs : List Glyph} (h : .plain ',' ∉ gs) : segments gs = [gs] := by
  induction gs with
  | nil => rfl
  | cons g gs ih =>
    simp only [List.mem_cons, not_or] at h
    rw [segments_cons (Ne.symm h.1), ih h.2, List.modifyHead_cons]

lemma mem_of_mem_segments {gs s : List Glyph} (hs : s ∈ segments gs) {g : Glyph} (hg : g ∈ s) :
    g ∈ gs := by
  induction gs generalizing s with
  | nil =>
    obtain rfl : s = [] := by simpa [segments] using hs
    simp at hg
  | cons k gs ih =>
    by_cases hk : k = .plain ','
    · rw [hk, segments_cons_comma] at hs
      rcases List.mem_cons.mp hs with rfl | hs
      · simp at hg
      · exact List.mem_cons_of_mem _ (ih hs hg)
    · rw [segments_cons hk] at hs
      obtain ⟨first, rest, hsegments⟩ := List.exists_cons_of_ne_nil (segments_ne_nil gs)
      rw [hsegments, List.modifyHead_cons] at hs
      rcases List.mem_cons.mp hs with rfl | hs
      · rcases List.mem_cons.mp hg with rfl | hg
        · simp
        · exact List.mem_cons_of_mem _ (ih (by simp [hsegments]) hg)
      · exact List.mem_cons_of_mem _ (ih (by simp [hsegments, hs]) hg)

lemma dropLast_modifyHead {α : Type} (f : α → α) (as : List α) :
    (as.modifyHead f).dropLast = as.dropLast.modifyHead f := by
  cases as with
  | nil => rfl
  | cons a as => cases as <;> rfl

/-- The text of a segment, with its escapes decoded. -/
def written (segment : List Glyph) : List Char := segment.flatMap (Glyph.decode bracedEscapes)

/-- The texts that a comma ends are the segments without the last one. -/
lemma ended_eq (gs : List Glyph) : ended gs = (segments gs).dropLast.map written := by
  induction gs with
  | nil => rfl
  | cons g gs ih =>
    rw [ended, ih]
    by_cases hg : g = .plain ','
    · rw [if_pos hg, hg, segments_cons_comma, List.dropLast_cons_of_ne_nil (segments_ne_nil gs)]
      rfl
    · rw [if_neg hg, segments_cons hg, dropLast_modifyHead]
      cases (segments gs).dropLast <;> rfl

/-- A last glyph that is no comma belongs to the last segment. -/
lemma dropLast_segments_concat {g : Glyph} (hg : g ≠ .plain ',') (gs : List Glyph) :
    (segments (gs ++ [g])).dropLast = (segments gs).dropLast := by
  induction gs with
  | nil => rw [List.nil_append, segments_cons hg]; rfl
  | cons k gs ih =>
    rw [List.cons_append]
    by_cases hk : k = .plain ','
    · rw [hk, segments_cons_comma, segments_cons_comma,
        List.dropLast_cons_of_ne_nil (segments_ne_nil _), ih,
        List.dropLast_cons_of_ne_nil (segments_ne_nil _)]
    · rw [segments_cons hk, segments_cons hk, dropLast_modifyHead, ih, dropLast_modifyHead]

/-- The segments that are checked: all of them, but not the last one if a backslash dangles. -/
def checked (gs : List Glyph) : List (List Glyph) :=
  if .dangling ∈ gs then (segments gs).dropLast else segments gs

lemma mem_segments_of_mem_checked {gs s : List Glyph} (hs : s ∈ checked gs) : s ∈ segments gs := by
  unfold checked at hs
  split_ifs at hs
  · exact List.mem_of_mem_dropLast hs
  · exact hs

/-- A comma that is added ends the last segment, unless a backslash takes its meaning away. -/
lemma ended_concat (inner : List Char) :
    ended (Glyph.ofChars (inner ++ [','])) = (checked (Glyph.ofChars inner)).map written := by
  rw [ended_eq, checked]
  split_ifs with hdangling
  · obtain ⟨cs, rfl, hcs⟩ := Glyph.exists_of_dangling_mem hdangling
    have hgs : Glyph.ofChars (cs ++ ['\\']) = Glyph.ofChars cs ++ [.dangling] :=
      Glyph.ofChars_append hcs ['\\']
    have hgs' : Glyph.ofChars (cs ++ ['\\'] ++ [',']) = Glyph.ofChars cs ++ [.escaped ','] := by
      rw [List.append_assoc]
      exact Glyph.ofChars_append hcs ['\\', ',']
    rw [hgs, hgs', dropLast_segments_concat (by simp), dropLast_segments_concat (by simp)]
  · have hgs : Glyph.ofChars (inner ++ [',']) = Glyph.ofChars inner ++ [.plain ','] :=
      Glyph.ofChars_append hdangling [',']
    have hempty : segments [] = [[]] := rfl
    rw [hgs, segments_append_comma, hempty, List.dropLast_concat]

/-! ### Pairs -/

/-- In a text with a colon the first one ends the key. -/
lemma pair_append {key : List Char} (hkey : ':' ∉ key) (text : String) (value : List Char) :
    pair text (key ++ ':' :: value) =
      if String.ofList (Text.stripChars key) = "" then .error (.malformed text .emptyKey none)
      else .ok (String.ofList (Text.stripChars key), String.ofList (Text.stripChars value)) := by
  have hstripped : ¬ [':'] <:+: Text.stripLeft key := by
    rw [List.singleton_infix_iff]
    exact fun hmem => hkey ((List.dropWhile_suffix _).subset hmem)
  have hcut := partition?_append List.not_mem_nil hstripped (Text.stripRight value)
  rw [List.append_assoc, List.singleton_append] at hcut
  rw [pair, Text.stripChars_append_cons (by decide), hcut]
  dsimp only
  rw [Text.stripChars_stripLeft, Text.stripChars_stripRight]

lemma pair_of_not_mem {cs : List Char} (h : ':' ∉ cs) (text : String) :
    pair text cs = .error (.malformed text .notAPair none) := by
  have hnone : partition? [':'] (Text.stripChars cs) = none := by
    rw [partition?_eq_none_iff, List.singleton_infix_iff]
    intro hmem
    obtain ⟨l, r, hcs, -, -⟩ := Text.exists_pad cs
    exact h (hcs ▸ by simp [hmem])
  rw [pair, hnone]

lemma required_eq_ok_iff {text : String} {pairs : Record String} {key value : String} :
    required text pairs key = .ok value ↔ pairs.get? key = some value ∧ value ≠ "" := by
  unfold required
  cases pairs.get? key with
  | none => simp
  | some v =>
    by_cases hv : v = ""
    · simp [hv, eq_comm]
    · have hvalue : v = value ↔ v = value ∧ value ≠ "" := by
        constructor
        · rintro rfl
          exact ⟨rfl, hv⟩
        · exact And.left
      simpa [hv] using hvalue

/-- What a segment is read as: its decoded text is cut at the first colon, and what stands before it
is not blank. -/
def ReadAs (segment : List Glyph) (p : String × String) : Prop :=
  ∃ key value, written segment = key ++ ':' :: value ∧ ':' ∉ key ∧ p.1 ≠ "" ∧
    p = (String.ofList (Text.stripChars key), String.ofList (Text.stripChars value))

/-- A segment is a pair: it has a colon that is not escaped, and what stands before the first of
these is not blank. -/
def IsPair (segment : List Glyph) : Prop :=
  .plain ':' ∈ segment ∧
    ¬ (Glyph.toChars (segment.takeWhile (· ≠ .plain ':'))).all Text.isBlank

instance : DecidablePred IsPair := fun _ => inferInstanceAs (Decidable (_ ∧ _))

lemma pair_eq_ok_iff {text : String} {segment : List Glyph} {p : String × String} :
    pair text (written segment) = .ok p ↔ ReadAs segment p := by
  constructor
  · intro h
    by_cases hmem : ':' ∈ written segment
    · obtain ⟨key, value, hcut, hkey⟩ := List.eq_append_cons_of_mem hmem
      rw [hcut, pair_append hkey] at h
      split_ifs at h with hne
      obtain rfl := Except.ok.inj h
      exact ⟨key, value, hcut, hkey, hne, rfl⟩
    · rw [pair_of_not_mem hmem] at h
      cases h
  · rintro ⟨key, value, hcut, hkey, hne, rfl⟩
    rw [hcut, pair_append hkey, if_neg hne]

namespace ReadAs

variable {segment : List Glyph} {p : String × String}

/-- A segment that has no escaped colon is read by a colon that is not escaped. -/
lemma plain_mem (h : ReadAs segment p) (hescaped : .escaped ':' ∉ segment) :
    .plain ':' ∈ segment := by
  obtain ⟨key, value, hcut, -⟩ := h
  have hmem : ':' ∈ written segment := by simp [hcut]
  obtain ⟨g, hg, hcolon⟩ := List.mem_flatMap.mp hmem
  cases g with
  | plain c =>
    obtain rfl : ':' = c := by simpa [Glyph.decode] using hcolon
    exact hg
  | escaped c =>
    obtain rfl : ':' = c := by
      rw [Glyph.decode] at hcolon
      split_ifs at hcolon <;> simpa using hcolon
    exact absurd hg hescaped
  | dangling => simp [Glyph.decode] at hcolon

/-- What stands before the first colon that is read begins what stands before the first one that is
not escaped, so neither is blank. -/
lemma isPair (h : ReadAs segment p) (hcolon : .plain ':' ∈ segment) : IsPair segment := by
  refine ⟨hcolon, ?_⟩
  obtain ⟨key, value, hcut, hkey, hne, rfl⟩ := h
  obtain ⟨before, after, rfl, hbefore⟩ := List.eq_append_cons_of_mem hcolon
  have hkeyWritten : key ⊆ written before := by
    have happend : written (before ++ .plain ':' :: after) =
        written before ++ ':' :: written after := by
      simp [written, Glyph.decode]
    rw [happend] at hcut
    -- the key has no colon, so it cannot go beyond the one that is read as a separator
    rcases List.append_eq_append_iff.mp hcut with ⟨rest, rfl, hrest⟩ | ⟨rest, hrest, -⟩
    · cases rest with
      | nil => simp
      | cons c rest =>
        obtain ⟨rfl, -⟩ : ':' = c ∧ _ := by simpa using hrest
        simp at hkey
    · rw [hrest]
      exact List.subset_append_left _ _
  have hbeforeAll : ∀ g ∈ before, decide (g ≠ Glyph.plain ':') = true := by
    intro g hg
    exact decide_eq_true (ne_of_mem_of_not_mem hg hbefore)
  rw [List.takeWhile_append_of_pos hbeforeAll, List.takeWhile_cons_of_neg (by simp),
    List.append_nil, List.all_eq_true]
  intro hblank
  apply hne
  rw [← String.toList_eq_nil_iff, String.toList_ofList, Text.stripChars_eq_nil_iff]
  intro c hc
  obtain ⟨g, hg, hcg⟩ := List.mem_flatMap.mp (hkeyWritten hc)
  exact hblank c (List.mem_flatMap.mpr ⟨g, hg, Glyph.decode_subset_chars _ g hcg⟩)

end ReadAs

/-- All segments are pairs if those that are checked are, and the last one is. -/
lemma forall_segments_iff {gs : List Glyph} {P : List Glyph → Prop} :
    (∀ s ∈ segments gs, P s) ↔
      (∀ s ∈ checked gs, P s) ∧
        (.dangling ∈ gs → ∀ last ∈ (segments gs).getLast?, P last) := by
  unfold checked
  split_ifs with hdangling
  · have hconcat := List.dropLast_concat_getLast (segments_ne_nil gs)
    rw [List.getLast?_eq_some_getLast (segments_ne_nil gs)]
    conv_lhs => rw [← hconcat]
    simp [hdangling, or_imp, forall_and]
  · simp [hdangling]

/-! ### Texts between braces -/

lemma getLast?_braces (inner : List Char) :
    ('\x7b' :: (inner ++ ['\x7d'])).getLast? = some '\x7d' := by
  rw [← List.cons_append, List.getLast?_concat]

section

variable {text : String} {inner : List Char}
  (htext : Text.stripChars text.toList = '\x7b' :: (inner ++ ['\x7d']))

include htext

lemma parseBraced_eq :
    parseBraced text = do
      let pairs ← ((checked (Glyph.ofChars inner)).map written).mapM (pair text)
      let pattern ← required text (Record.overlay [] pairs) "pattern"
      let description ← required text (Record.overlay [] pairs) "desc"
      return { pattern, description } := by
  have hinner : (Text.stripChars text.toList).tail.dropLast = inner := by rw [htext]; simp
  rw [parseBraced, hinner]
  dsimp only
  rw [ended_concat, htext, getLast?_braces, if_neg (by simp)]

/-- Which texts between braces are accepted, and as what. -/
lemma parseBraced_eq_ok_iff {p d : String} :
    parseBraced text = .ok ⟨p, d⟩ ↔
      ∃ pairs, List.Forall₂ ReadAs (checked (Glyph.ofChars inner)) pairs ∧
        (pairs.reverse.lookup "pattern" = some p ∧ p ≠ "") ∧
        pairs.reverse.lookup "desc" = some d ∧ d ≠ "" := by
  have hlast : ∀ (pairs : Record String) name,
      Record.get? (Record.overlay [] pairs) name = pairs.reverse.lookup name := by
    intro pairs name
    rw [Record.get?_overlay]
    exact Option.or_none
  simp only [parseBraced_eq htext, bind_eq_ok_iff, mapM_eq_ok_iff, List.forall₂_map_left_iff,
    pair_eq_ok_iff, required_eq_ok_iff, hlast]
  constructor
  · rintro ⟨pairs, hpairs, p', hp, d', hd, ⟨⟩⟩
    exact ⟨pairs, hpairs, hp, hd⟩
  · rintro ⟨pairs, hpairs, hp, hd⟩
    exact ⟨pairs, hpairs, p, hp, d, hd, rfl⟩

end

/-- A text between braces is read as its segments are, which all have to be read, but for the last
one where a backslash dangles; any error is about the whole text. So of a text that is accepted all
segments are pairs if each that is checked has a colon that is not escaped, and if the last one is
a pair where it is not checked. -/
theorem parseBraced_pairs {text : String} {inner : List Char}
    (htext : Text.stripChars text.toList = '\x7b' :: (inner ++ ['\x7d'])) :
    let glyphs := Glyph.ofChars inner
    (∀ p d, parseBraced text = .ok ⟨p, d⟩ ↔
      ∃ pairs, List.Forall₂ ReadAs (checked glyphs) pairs ∧
        (pairs.reverse.lookup "pattern" = some p ∧ p ≠ "") ∧
        pairs.reverse.lookup "desc" = some d ∧ d ≠ "") ∧
    FailsOnly (fun e => e.Refuses text ∧ e.code = .invalidValidator) (parseBraced text) ∧
    ∀ a, parseBraced text = .ok a →
      ((∀ s ∈ segments glyphs, IsPair s) ↔
        (∀ s ∈ checked glyphs, .plain ':' ∈ s) ∧
          (.dangling ∈ glyphs → ∀ last ∈ (segments glyphs).getLast?, IsPair last)) ∧
      (.escaped ':' ∉ glyphs → .dangling ∉ glyphs → ∀ s ∈ segments glyphs, IsPair s) := by
  intro glyphs
  refine ⟨fun p d => parseBraced_eq_ok_iff htext, ?errors, ?accepted⟩
  case errors =>
    intro e he
    obtain ⟨what, rfl⟩ := parseBraced_refuses text e he
    exact ⟨⟨what, rfl⟩, rfl⟩
  case accepted =>
    rintro ⟨p, d⟩ ha
    obtain ⟨pairs, hpairs, -⟩ := (parseBraced_eq_ok_iff htext).mp ha
    have hread : ∀ s ∈ checked glyphs, ∃ p, ReadAs s p := exists_forall₂_iff.mp ⟨pairs, hpairs⟩
    have hall : (∀ s ∈ segments glyphs, IsPair s) ↔
        (∀ s ∈ checked glyphs, .plain ':' ∈ s) ∧
          (.dangling ∈ glyphs → ∀ last ∈ (segments glyphs).getLast?, IsPair last) := by
      rw [forall_segments_iff]
      refine and_congr_left fun _ => forall₂_congr fun s hs => ?_
      obtain ⟨q, hq⟩ := hread s hs
      exact ⟨And.left, hq.isPair⟩
    refine ⟨hall, fun hescaped hdangling => hall.mpr ⟨?_, fun h => absurd h hdangling⟩⟩
    intro s hs
    obtain ⟨q, hq⟩ := hread s hs
    exact hq.plain_mem fun h => hescaped (mem_of_mem_segments (mem_segments_of_mem_checked hs) h)

/-- A value with a comma that is escaped, another one with a colon, and blanks around the text. -/
theorem parseBraced_pairs_comma :
    let text := " \x7bpattern:a\\,b, desc:x:y\x7d"
    let inner := "pattern:a\\,b, desc:x:y".toList
    Text.stripChars text.toList = '\x7b' :: (inner ++ ['\x7d']) ∧
      parseBraced text = .ok ⟨"a,b", "x:y"⟩ ∧
      ∀ s ∈ segments (Glyph.ofChars inner), IsPair s := by
  intro text inner
  have htext : Text.stripChars text.toList = '\x7b' :: (inner ++ ['\x7d']) := by decide
  obtain ⟨hok, -, hpairs⟩ := parseBraced_pairs htext
  have haccepted : parseBraced text = .ok ⟨"a,b", "x:y"⟩ := by
    refine (hok _ _).mpr ⟨[("pattern", "a,b"), ("desc", "x:y")], ?_, by decide, by decide⟩
    have hchecked : checked (Glyph.ofChars inner) =
        [Glyph.ofChars "pattern:a\\,b".toList, Glyph.ofChars " desc:x:y".toList] := by decide
    have hpattern : ReadAs (Glyph.ofChars "pattern:a\\,b".toList) ("pattern", "a,b") :=
      ⟨"pattern".toList, "a,b".toList, by decide⟩
    have hdesc : ReadAs (Glyph.ofChars " desc:x:y".toList) ("desc", "x:y") :=
      ⟨" desc".toList, "x:y".toList, by decide⟩
    rw [hchecked]
    exact .cons hpattern (.cons hdesc .nil)
  exact ⟨htext, haccepted, (hpairs _ haccepted).2 (by decide) (by decide)⟩

/-- A backslash before the closing brace, and one before the only colon of a segment: the texts are
accepted though their last segments are no pairs. -/
theorem not_parseBraced_pairs :
    (parseBraced "\x7bpattern:a,desc:b,x\\\x7d" = .ok ⟨"a", "b"⟩ ∧
      ¬ ∀ s ∈ segments (Glyph.ofChars "pattern:a,desc:b,x\\".toList), IsPair s) ∧
    parseBraced "\x7bpattern:a,desc:b,x\\:y\x7d" = .ok ⟨"a", "b"⟩ ∧
      ¬ ∀ s ∈ segments (Glyph.ofChars "pattern:a,desc:b,x\\:y".toList), IsPair s := by
  have hpattern : ReadAs (Glyph.ofChars "pattern:a".toList) ("pattern", "a") :=
    ⟨"pattern".toList, "a".toList, by decide⟩
  have hdesc : ReadAs (Glyph.ofChars "desc:b".toList) ("desc", "b") :=
    ⟨"desc".toList, "b".toList, by decide⟩
  have hx : ReadAs (Glyph.ofChars "x\\:y".toList) ("x", "y") :=
    ⟨"x".toList, "y".toList, by decide⟩
  refine ⟨⟨?dangling, by decide⟩, ?escaped, by decide⟩
  case dangling =>
    have htext : Text.stripChars "\x7bpattern:a,desc:b,x\\\x7d".toList =
        '\x7b' :: ("pattern:a,desc:b,x\\".toList ++ ['\x7d']) := by decide
    refine (parseBraced_eq_ok_iff htext).mpr
      ⟨[("pattern", "a"), ("desc", "b")], ?_, by decide, by decide⟩
    exact .cons hpattern (.cons hdesc .nil)
  case escaped =>
    have htext : Text.stripChars "\x7bpattern:a,desc:b,x\\:y\x7d".toList =
        '\x7b' :: ("pattern:a,desc:b,x\\:y".toList ++ ['\x7d']) := by decide
    refine (parseBraced_eq_ok_iff htext).mpr
      ⟨[("pattern", "a"), ("desc", "b"), ("x", "y")], ?_, by decide, by decide⟩
    exact .cons hpattern (.cons hdesc (.cons hx .nil))

end PatternArgument

end ValueSpec
