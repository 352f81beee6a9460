import Mathlib.Algebra.GroupWithZero.Nat
import Mathlib.Algebra.Order.BigOperators.Group.List
import Mathlib.Algebra.Order.Group.Nat
import Mathlib.Order.WellFounded
import ValueSpec.Proofs.Decoding
import ValueSpec.Proofs.Leaves
import ValueSpec.Proofs.Subtexts

/-!
# The size of what is built

A spec builds no more than it says. The arguments of a call are together shorter than the call, and
every node of a validator is owed to characters of its own, so that a validator has no more nodes
than its spec has characters. Its height is bounded by the levels that are left. The levels are
needed for this bound only. As arguments are shorter than what they are arguments of, building
would come to an end without them.
-/

namespace ValueSpec

/-! ### Nodes and paths -/

namespace Validator

mutual

/-- The number of nodes of a validator. -/
def size : Validator → Nat
  | leaf _ => 1
  | all vs => 1 + sizeAll vs
  | any vs => 1 + sizeAll vs
  | not v => 1 + v.size

/-- The number of nodes of several validators. -/
def sizeAll : List Validator → Nat
  | [] => 0
  | v :: vs => v.size + sizeAll vs

end

/-- A way down from a node to another one, with the number of its edges. -/
inductive Path : Nat → Validator → Validator → Prop
  | refl (v : Validator) : Path 0 v v
  | down {v w u : Validator} {n : Nat} : w ∈ v.children → Path n w u → Path (n + 1) v u

lemma size_eq (v : Validator) : v.size = 1 + sizeAll v.children := by
  cases v <;> simp [size, sizeAll, children]

/-- A validator has at most a number of nodes, and no path down from its root has more than a
number of edges. -/
structure Fits (nodes edges : Nat) (v : Validator) : Prop where
  size_le : v.size ≤ nodes
  path_le : ∀ n u, Path n v u → n ≤ edges

/-- A node adds one edge to the paths of its children. -/
lemma Fits.node {nodes edges : Nat} {v : Validator} (hsize : sizeAll v.children < nodes)
    (hpath : ∀ w ∈ v.children, ∀ n u, Path n w u → n ≤ edges) : Fits nodes (edges + 1) v := by
  constructor
  · rw [size_eq]
    omega
  · intro n u h
    cases h with
    | refl => omega
    | down hw hdown => exact Nat.succ_le_succ (hpath _ hw _ _ hdown)

/-- A leaf, or the negation of one. -/
def IsPlain (v : Validator) : Prop := ∃ l, v = leaf l ∨ v = not (leaf l)

lemma fits_leaf (l : Leaf) {nodes : Nat} (h : 0 < nodes) (edges : Nat) :
    Fits nodes edges (leaf l) := by
  refine ⟨h, ?_⟩
  rintro n u (_ | ⟨hw, -⟩)
  · exact Nat.zero_le _
  · cases hw

lemma IsPlain.fits {v : Validator} (hv : v.IsPlain) {nodes : Nat} (h : 1 < nodes) (edges : Nat) :
    Fits nodes (edges + 1) v := by
  obtain ⟨l, rfl | rfl⟩ := hv
  · exact fits_leaf l (by omega) _
  · refine .node h fun w hw => ?_
    rw [List.mem_singleton.mp hw]
    exact (fits_leaf l Nat.one_pos edges).path_le

end Validator

open Validator

/-! ### Lengths of arguments -/

/-- The number of characters of several texts. -/
def totalLength (ss : List String) : Nat := (ss.map String.length).sum

@[simp] lemma totalLength_cons (s : String) (ss : List String) :
    totalLength (s :: ss) = s.length + totalLength ss := rfl

lemma length_le_totalLength {s : String} {ss : List String} (h : s ∈ ss) :
    s.length ≤ totalLength ss :=
  List.single_le_sum (fun _ _ => Nat.zero_le _) _ (List.mem_map_of_mem h)

/-- Several texts are together no longer than before if none of them has become longer. -/
lemma totalLength_map_le {f : String → String} (h : ∀ s, (f s).length ≤ s.length)
    (ss : List String) : totalLength (ss.map f) ≤ totalLength ss := by
  induction ss with
  | nil => exact le_rfl
  | cons s ss ih =>
    rw [List.map_cons, totalLength_cons, totalLength_cons]
    exact Nat.add_le_add (h s) ih

lemma Text.length_strip_le (s : String) : (strip s).length ≤ s.length := by
  have hlength := (stripChars_sublist s.toList).length_le
  rwa [← toList_strip, String.length_toList, String.length_toList] at hlength

lemma length_unescapeValue_le (s : String) : (unescapeValue s).length ≤ s.length := by
  have hlength := (unescapeValue_sublist s).length_le
  rwa [String.length_toList, String.length_toList] at hlength

namespace Splitting

/-- The segments of a text are written with no more characters than the text. -/
lemma sum_length_cut_le (b : Balance) (gs : List Glyph) :
    ((cut b gs).map fun segment => (Glyph.toChars segment).length).sum ≤
      (Glyph.toChars gs).length := by
  induction gs generalizing b with
  | nil => simp [cut]
  | cons g gs ih =>
    rw [cut]
    split_ifs with hcomma
    · have hrest := ih b
      simp only [List.map_cons, List.sum_cons, Glyph.toChars_nil, Glyph.toChars_cons,
        List.length_append, List.length_nil]
      omega
    · obtain ⟨first, rest, hcut⟩ := List.exists_cons_of_ne_nil (cut_ne_nil (b.step g) gs)
      have hrest := ih (b.step g)
      rw [hcut] at hrest ⊢
      simp only [List.map_cons, List.sum_cons, Glyph.toChars_cons, List.length_append] at hrest ⊢
      omega

end Splitting

lemma totalLength_splitArguments_le (s : String) :
    totalLength (splitArguments s) ≤ s.length := by
  have hstrip : ∀ gs ∈ Splitting.cut .zero (Glyph.ofString s),
      (Text.strip (String.ofList (gs.flatMap Glyph.chars))).length ≤
        (Glyph.toChars gs).length := by
    intro gs _
    have hle := Text.length_strip_le (String.ofList (gs.flatMap Glyph.chars))
    rwa [String.length_ofList] at hle
  calc totalLength (splitArguments s)
    _ ≤ totalLength ((Splitting.cut .zero (Glyph.ofString s)).map fun gs =>
          Text.strip (String.ofList (gs.flatMap Glyph.chars))) := by
        rw [splitArguments, Splitting.segments_eq_filter]
        exact (List.filter_sublist.map String.length).sum_le_sum fun _ _ => Nat.zero_le _
    _ ≤ ((Splitting.cut .zero (Glyph.ofString s)).map fun gs => (Glyph.toChars gs).length).sum := by
        simp only [totalLength, List.map_map, Function.comp_def]
        exact List.sum_le_sum hstrip
    _ ≤ (Glyph.toChars (Glyph.ofString s)).length := Splitting.sum_length_cut_le _ _
    _ = s.length := by rw [Glyph.ofString, Glyph.toChars_ofChars, String.length_toList]

/-- Whatever its shape, no argument text is longer than the text that it is taken from. -/
lemma ArgShape.totalLength_split_le (shape : ArgShape) (raw : String) :
    totalLength (shape.split raw) ≤ raw.length := by
  cases shape with
  | nested => exact totalLength_splitArguments_le raw
  | nestedOne =>
    rw [split]
    split_ifs
    · simp [totalLength]
    · simpa [totalLength] using Text.length_strip_le raw
  | single =>
    rw [split]
    split_ifs <;> simp [totalLength]
  | list =>
    exact (totalLength_map_le length_unescapeValue_le _).trans (totalLength_splitArguments_le raw)

/-- A call has a name and two parentheses besides its arguments. -/
lemma Call.length_of_parse {shapeOf : String → ArgShape} {text : String} {call : Call}
    (h : parse shapeOf text = .ok call) :
    0 < (Text.strip text).length ∧
      (call.args ≠ [] → totalLength call.args + 3 ≤ (Text.strip text).length) := by
  have hcs : Text.strip text = String.ofList (Text.stripChars text.toList) := rfl
  rw [hcs, String.length_ofList]
  by_cases hopen : ∀ i, ¬ Unescaped '(' (Text.stripChars text.toList) i
  · obtain ⟨hne, -, rfl⟩ := (parse_not_opened_eq_ok_iff shapeOf hcs hopen).mp h
    exact ⟨List.length_pos_iff.mpr hne, fun hargs => absurd rfl hargs⟩
  · obtain ⟨i, hi⟩ := exists_firstUnescaped hopen
    have hcall := (parse_opened_eq_ok_iff shapeOf hcs hi).mp h
    generalize Text.stripChars text.toList = cs at hi hcall ⊢
    have hlt := hi.1.lt_length
    have hname : i ≠ 0 := by
      rintro rfl
      exact hcall.named (by simp)
    -- the parenthesis that opens is not the one that closes
    have hclose : i + 1 < cs.length := by
      by_contra hge
      have hlast : cs.getLast? = some '(' := by
        rw [List.getLast?_eq_getElem?, show cs.length - 1 = i by omega, hi.1.1]
      rw [hcall.closed] at hlast
      exact absurd hlast (by decide)
    have hargs := ArgShape.totalLength_split_le (shapeOf call.name) call.rawArgs
    rw [← hcall.args, hcall.rawArgs, String.length_ofList, List.length_dropLast,
      List.length_drop] at hargs
    exact ⟨by omega, fun _ => by omega⟩

lemma Call.totalLength_args_lt {shapeOf : String → ArgShape} {text : String} {call : Call}
    (h : parse shapeOf text = .ok call) : totalLength call.args < (Text.strip text).length := by
  obtain ⟨hpos, hargs⟩ := length_of_parse h
  by_cases hnil : call.args = []
  · rw [hnil]
    exact hpos
  · have := hargs hnil
    omega

/-! ### What entries make -/

namespace Registry

/-- A form whose makers of values make leaves or negations of leaves, and only leaves where no
values are needed, and whose makers of specs put one node above what they are given. -/
def FormFits : Form → Prop
  | .fixed v => ∃ l, v = .leaf l
  | .one make => ∀ name a, Yields IsPlain (make name a)
  | .two make => ∀ name a b, Yields IsPlain (make name a b)
  | .some make => ∀ values, IsPlain (make values)
  | .many make => ∀ values, ∃ l, make values = .leaf l
  | .whole make => ∀ a, Yields IsPlain (make a)
  | .specs make => ∀ vs, (make vs).children = vs
  | .spec make => ∀ v, (make v).children = [v]

lemma pattern_isLeaf (arg : String) : Yields (fun v => ∃ l, v = .leaf l) (pattern arg) :=
  .bind_right fun _ => .bind_right fun _ => .ok ⟨_, rfl⟩

lemma lengthForm_fits (unit : LengthUnit) (bounds : Int → Option Int × Option Int) :
    FormFits (lengthForm unit bounds) := fun _ _ => .bind_right fun _ => .ok ⟨_, .inl rfl⟩

lemma form_fits {e : Entry} (he : e ∈ entries) : FormFits e.form := by
  have hleaf : ∀ l : Leaf, IsPlain (.leaf l) := fun l => ⟨l, .inl rfl⟩
  have hpattern : ∀ arg, Yields IsPlain (pattern arg) := by
    rintro arg v hv
    obtain ⟨l, rfl⟩ := pattern_isLeaf arg v hv
    exact hleaf l
  have hforms : ∀ e ∈ entries, FormFits e.form := by
    simp only [entries, List.forall_mem_cons]
    refine ⟨⟨_, rfl⟩, fun _ => ⟨_, rfl⟩, lengthForm_fits _ _, lengthForm_fits _ _,
      lengthForm_fits _ _, lengthForm_fits _ _, lengthForm_fits _ _, lengthForm_fits _ _, ?range,
      ?intrange, ?min, ?max, hpattern, hpattern, ?mustnotmatch, fun _ => hleaf _,
      fun _ => ⟨_, .inr rfl⟩, ⟨_, rfl⟩, ⟨_, rfl⟩, ⟨_, rfl⟩, ⟨_, rfl⟩, ⟨_, rfl⟩, ⟨_, rfl⟩,
      fun _ => hleaf _, ⟨_, rfl⟩, ⟨_, rfl⟩, ⟨_, rfl⟩, fun _ => rfl, fun _ => rfl, fun _ => rfl,
      by simp⟩
    case range => exact fun _ _ _ => .bind_right fun _ => .bind_right fun _ => .ok (hleaf _)
    case intrange => exact fun _ _ _ => .bind_right fun _ => .bind_right fun _ => .ok (hleaf _)
    case min => exact fun _ _ => .bind_right fun _ => .ok (hleaf _)
    case max => exact fun _ _ => .bind_right fun _ => .ok (hleaf _)
    case mustnotmatch =>
      intro arg
      refine (pattern_isLeaf arg).bind ?_
      rintro _ ⟨l, rfl⟩
      exact .ok ⟨l, .inr rfl⟩
  exact hforms e he

variable {nested : String → Build Validator} {edges : Nat} {args : List String}

/-- What is built of several specs has no more nodes than they have characters. -/
lemma mapM_fits (hnested : ∀ s, Yields (Fits s.length edges) (nested s)) (args : List String) :
    Yields (fun vs => sizeAll vs ≤ totalLength args ∧
      ∀ v ∈ vs, ∀ n u, Path n v u → n ≤ edges) (args.mapM nested) := by
  intro vs hvs
  rw [mapM_eq_ok_iff] at hvs
  induction hvs with
  | nil => exact ⟨le_rfl, by simp⟩
  | @cons arg v _ _ hv _ ih =>
    have hfits := hnested arg v hv
    constructor
    · rw [sizeAll, totalLength_cons]
      exact Nat.add_le_add hfits.size_le ih.1
    · exact List.forall_mem_cons.mpr ⟨hfits.path_le, ih.2⟩

lemma make_fits {e : Entry} (he : e ∈ entries)
    (hnested : ∀ s, Yields (Fits s.length edges) (nested s)) {nodes : Nat}
    (hpos : 0 < nodes) (hargs : args ≠ [] → totalLength args + 3 ≤ nodes) :
    Yields (Fits nodes (edges + 1)) (e.make nested args) := by
  have hform := form_fits he
  unfold Entry.make
  split
  case h_1 v hv =>
    rw [hv] at hform
    obtain ⟨l, rfl⟩ := hform
    exact .ok (fits_leaf l hpos _)
  case h_2 make a hmake =>
    rw [hmake] at hform
    have hroom := hargs (by simp)
    exact fun v hv => (hform _ _ v hv).fits (by omega) _
  case h_3 make a b hmake =>
    rw [hmake] at hform
    have hroom := hargs (by simp)
    exact fun v hv => (hform _ _ _ v hv).fits (by omega) _
  case h_4 make a rest hmake =>
    rw [hmake] at hform
    have hroom := hargs (by simp)
    exact .ok ((hform _).fits (by omega) _)
  case h_5 args _ _ make hmake =>
    rw [hmake] at hform
    obtain ⟨l, hl⟩ := hform args
    rw [hl]
    exact .ok (fits_leaf l hpos _)
  case h_6 make a hmake =>
    rw [hmake] at hform
    have hroom := hargs (by simp)
    exact fun v hv => (hform _ v hv).fits (by omega) _
  case h_7 make a rest hmake =>
    rw [hmake] at hform
    have hroom := hargs (by simp)
    refine (mapM_fits hnested (a :: rest)).bind fun vs hvs => .ok (.node ?_ ?_)
    · rw [hform vs]
      omega
    · rw [hform vs]
      exact hvs.2
  case h_8 make a hmake =>
    rw [hmake] at hform
    have hroom := hargs (by simp)
    rw [totalLength_cons] at hroom
    refine (hnested a).bind fun v hv => .ok (.node ?_ ?_)
    · have hsize := hv.size_le
      rw [hform v, sizeAll, sizeAll]
      omega
    · rw [hform v]
      exact List.forall_mem_cons.mpr ⟨hv.path_le, by simp⟩
  case h_9 => exact .refuse _

/-- A validator has at most as many nodes as its spec has characters, and at most as many edges on
a path as there are levels. -/
lemma buildAt_fits (n : Nat) (text : String) :
    Yields (Fits (Text.strip text).length n) (buildAt n text) := by
  induction n generalizing text with
  | zero => exact .refuse _
  | succ n ih =>
    have hnested : ∀ s, Yields (Fits s.length n) (buildAt n s) := fun s v hv =>
      ⟨(ih s v hv).size_le.trans (Text.length_strip_le s), (ih s v hv).path_le⟩
    intro v hv
    obtain ⟨call, hcall, hv⟩ := Build.bind_ok_iff.mp hv
    obtain ⟨hpos, hargs⟩ := Call.length_of_parse (mapError_eq_ok_iff.mp hcall)
    unfold resolveWith at hv
    cases hlookup : lookup? call.name with
    | none =>
      rw [hlookup] at hv
      exact absurd hv (Build.refuse_ne_ok _ _)
    | some e =>
      rw [hlookup] at hv
      exact make_fits (mem_entries_of_lookup? hlookup) hnested hpos hargs v hv

/-! ### Building without levels -/

/-- Makers that agree on the arguments make the same. -/
lemma make_congr (e : Entry) {nested' : String → Build Validator} {args : List String}
    (h : ∀ a ∈ args, nested a = nested' a) : e.make nested args = e.make nested' args := by
  have hmapM : ∀ args : List String, (∀ a ∈ args, nested a = nested' a) →
      args.mapM nested = args.mapM nested' := by
    intro args hargs
    induction args with
    | nil => rfl
    | cons a args ih =>
      rw [List.forall_mem_cons] at hargs
      rw [List.mapM_cons, List.mapM_cons, hargs.1, ih hargs.2]
  unfold Entry.make
  split
  case h_7 => rw [hmapM _ h]
  case h_8 => rw [h _ (by simp)]
  all_goals rfl

/-- With more levels than a spec has characters, levels do not matter. -/
lemma buildAt_eq_of_length_lt {m n : Nat} {text : String} (hm : (Text.strip text).length < m)
    (hn : (Text.strip text).length < n) : buildAt m text = buildAt n text := by
  induction m generalizing n text with
  | zero => omega
  | succ m ih =>
    obtain _ | n := n
    · omega
    rw [buildAt, buildAt]
    cases hcall : Call.parse shapeFor text with
    | error e => rw [Build.ofSpec_error, Build.refuse_bind, Build.refuse_bind]
    | ok call =>
      rw [Build.ofSpec_ok, Build.ok_bind, Build.ok_bind, resolveWith, resolveWith]
      split
      · rfl
      · refine make_congr _ fun a ha => ?_
        have hlt : (Text.strip a).length < (Text.strip text).length :=
          calc (Text.strip a).length
            _ ≤ a.length := Text.length_strip_le a
            _ ≤ totalLength call.args := length_le_totalLength ha
            _ < (Text.strip text).length := Call.totalLength_args_lt hcall
        exact ih (hlt.trans_le (Nat.le_of_lt_succ hm)) (hlt.trans_le (Nat.le_of_lt_succ hn))

/-- A validator has at most as many nodes as its trimmed spec has characters, and no path down from
its root has more edges than levels are left. The arguments of a call are together shorter than
what it is read from. So building goes from texts to shorter ones, and with more levels than
characters no level is missed. -/
theorem built_fits (text : String) :
    (∀ depth v, build text depth = .ok v →
      v.size ≤ (Text.strip text).length ∧ ∀ n u, Path n v u → (n : Int) ≤ 11 - depth) ∧
    (∀ shapeOf call, Call.parse shapeOf text = .ok call →
      (call.args.map String.length).sum < (Text.strip text).length) ∧
    (WellFounded fun arg spec => ∃ call, Call.parse shapeFor spec = .ok call ∧ arg ∈ call.args) ∧
    ∀ m n, (Text.strip text).length < m → (Text.strip text).length < n →
      buildAt m text = buildAt n text := by
  refine ⟨?_, fun _ _ => Call.totalLength_args_lt, ?_, fun _ _ => buildAt_eq_of_length_lt⟩
  · intro depth v hv
    obtain ⟨hsize, hpath⟩ := buildAt_fits _ _ v hv
    refine ⟨hsize, fun n u hu => ?_⟩
    have hedges := hpath n u hu
    have hlevels : levels depth ≠ 0 := by
      intro hzero
      rw [build, hzero] at hv
      exact Build.refuse_ne_ok _ _ hv
    simp only [levels, maxDepth] at hedges hlevels
    omega
  · refine (measure String.length).wf.mono ?_
    rintro arg spec ⟨call, hcall, harg⟩
    show arg.length < spec.length
    calc arg.length
      _ ≤ totalLength call.args := length_le_totalLength harg
      _ < (Text.strip spec).length := Call.totalLength_args_lt hcall
      _ ≤ spec.length := Text.length_strip_le spec

/-- On the deepest level a spec of values can still make two nodes, with an edge between them. -/
theorem built_fits_isnotoneof :
    let v : Validator := .not (.leaf (.oneOf ["a", "b"]))
    build "isnotoneof(a,b)" 10 = .ok v ∧
      v.size ≤ (Text.strip "isnotoneof(a,b)").length ∧
      (∀ n u, Path n v u → (n : Int) ≤ 11 - 10) ∧ Path 1 v (.leaf (.oneOf ["a", "b"])) ∧
      (["a", "b"].map String.length).sum < (Text.strip "isnotoneof(a,b)").length ∧
      buildAt 100 "isnotoneof(a,b)" = buildAt 16 "isnotoneof(a,b)" := by
  intro v
  have hlookup : lookup? "isnotoneof" =
      some { name := "isnotoneof", form := .some fun values => .not (.leaf (.oneOf values)) } :=
    lookup?_of_isLower (by decide)
  have hbuild : build "isnotoneof(a,b)" 10 = .ok v := build_call hlookup le_rfl "a,b"
  have hparse : Call.parse (fun _ => .list) "isnotoneof(a,b)" =
      .ok { name := "isnotoneof", rawArgs := "a,b", args := ["a", "b"] } :=
    Call.parse_call _ (w := "isnotoneof".toList) (by decide) (by decide) (by decide) (by decide)
      "a,b".toList
  obtain ⟨hfits, hargs, -, hlevels⟩ := built_fits "isnotoneof(a,b)"
  obtain ⟨hsize, hpath⟩ := hfits 10 v hbuild
  exact ⟨hbuild, hsize, hpath, .down (List.mem_singleton_self _) (.refl _), hargs _ _ hparse,
    hlevels 100 16 (by decide) (by decide)⟩

end Registry

end ValueSpec
