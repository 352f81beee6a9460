import Mathlib.Data.List.Lex
import Mathlib.Data.Option.Defs
import ValueSpec.Command
import ValueSpec.Proofs.Ranges
import ValueSpec.Proofs.Refutations
import ValueSpec.Proofs.Verdicts

namespace ValueSpec

namespace Validator

/-! ### Paths -/

/-- The node that a path leads to; each step is the number of a child. -/
def at? : Validator → List Nat → Option Validator
  | v, [] => some v
  | v, i :: path => v.children[i]?.bind fun w => w.at? path

@[simp] lemma at?_nil (v : Validator) : v.at? [] = some v := rfl

@[simp] lemma at?_cons (v : Validator) (i : Nat) (path : List Nat) :
    v.at? (i :: path) = v.children[i]?.bind fun w => w.at? path := rfl

mutual

/-- The nodes of a validator, a node before its children, and the paths that lead to them. -/
def nodes : Validator → List (List Nat × Validator)
  | leaf l => [([], leaf l)]
  | all vs => ([], all vs) :: nodesFrom 0 vs
  | any vs => ([], any vs) :: nodesFrom 0 vs
  | not v => ([], not v) :: v.nodes.map fun e => (0 :: e.1, e.2)

/-- The nodes of children that are numbered from a number on. -/
def nodesFrom (i : Nat) : List Validator → List (List Nat × Validator)
  | [] => []
  | v :: vs => (v.nodes.map fun e => (i :: e.1, e.2)) ++ nodesFrom (i + 1) vs

end

lemma nodes_eq (v : Validator) : v.nodes = ([], v) :: nodesFrom 0 v.children := by
  cases v <;> simp [nodes, nodesFrom, children]

lemma mem_nodesFrom {i : Nat} {vs : List Validator} {path : List Nat} {n : Validator} :
    (path, n) ∈ nodesFrom i vs ↔
      ∃ j v below, vs[j]? = some v ∧ (below, n) ∈ v.nodes ∧ path = (i + j) :: below := by
  induction vs generalizing i with
  | nil => simp [nodesFrom]
  | cons v vs ih =>
    rw [nodesFrom, List.mem_append, List.mem_map, ih]
    constructor
    · rintro (⟨⟨below, m⟩, hm, ⟨⟩⟩ | ⟨j, w, below, hw, hbelow, rfl⟩)
      · exact ⟨0, v, below, rfl, hm, rfl⟩
      · exact ⟨j + 1, w, below, hw, hbelow, by rw [Nat.add_right_comm, Nat.add_assoc]⟩
    · rintro ⟨_ | j, w, below, hw, hbelow, rfl⟩
      · obtain rfl := Option.some.inj hw
        exact .inl ⟨_, hbelow, rfl⟩
      · exact .inr ⟨j, w, below, hw, hbelow, by rw [Nat.add_right_comm, Nat.add_assoc]⟩

/-- A path is listed with the node that it leads to. -/
lemma mem_nodes_iff {v : Validator} {path : List Nat} {n : Validator} :
    (path, n) ∈ v.nodes ↔ v.at? path = some n := by
  induction v using childInduction generalizing path with
  | h v ih =>
  rw [nodes_eq, List.mem_cons, mem_nodesFrom]
  cases path with
  | nil => simp [eq_comm]
  | cons i path =>
    rw [at?_cons, Option.bind_eq_some_iff]
    constructor
    · rintro (hroot | ⟨j, w, below, hw, hbelow, hpath⟩)
      · simp at hroot
      · obtain ⟨rfl, rfl⟩ : i = j ∧ path = below := by simpa using hpath
        exact ⟨w, hw, (ih w (List.mem_of_getElem? hw)).mp hbelow⟩
    · rintro ⟨w, hw, hpath⟩
      exact .inr ⟨i, w, path, hw, (ih w (List.mem_of_getElem? hw)).mpr hpath, by simp⟩

lemma pairwise_nodesFrom {vs : List Validator}
    (h : ∀ v ∈ vs, v.nodes.Pairwise fun d e => d.1 < e.1) (i : Nat) :
    (nodesFrom i vs).Pairwise fun d e => d.1 < e.1 := by
  induction vs generalizing i with
  | nil => exact .nil
  | cons v vs ih =>
    rw [List.forall_mem_cons] at h
    rw [nodesFrom, List.pairwise_append, List.pairwise_map]
    refine ⟨h.1.imp fun hlt => List.Lex.cons hlt, ih h.2 (i + 1), ?_⟩
    intro d hd e he
    obtain ⟨⟨below, m⟩, -, rfl⟩ := List.mem_map.mp hd
    obtain ⟨path, n⟩ := e
    obtain ⟨j, w, other, -, -, rfl⟩ := mem_nodesFrom.mp he
    exact List.Lex.rel (by omega)

/-- Paths are listed in their order, the shorter one before those that it begins. -/
lemma pairwise_nodes (v : Validator) : v.nodes.Pairwise fun d e => d.1 < e.1 := by
  induction v using childInduction with
  | h v ih =>
  rw [nodes_eq, List.pairwise_cons]
  refine ⟨?_, pairwise_nodesFrom ih 0⟩
  rintro ⟨path, n⟩ hmem
  obtain ⟨j, w, below, -, -, rfl⟩ := mem_nodesFrom.mp hmem
  exact List.Lex.nil

/-! ### Lines -/

lemma tree_eq (level : Nat) (v : Validator) :
    v.tree level = v.line level :: trees (level + 1) v.children := by
  cases v <;> simp [tree, trees, children]

/-- A line is that of the first level behind two blanks for every level. -/
lemma line_eq (level : Nat) (v : Validator) :
    v.line level = String.ofList (List.replicate (2 * level) ' ') ++ v.line 0 := by
  simp [line, String.append_assoc]

lemma trees_eq_map {vs : List Validator}
    (h : ∀ v ∈ vs, ∀ level, v.tree level = v.nodes.map fun e => e.2.line (level + e.1.length))
    (i level : Nat) :
    trees (level + 1) vs = (nodesFrom i vs).map fun e => e.2.line (level + e.1.length) := by
  induction vs generalizing i with
  | nil => rfl
  | cons v vs ih =>
    rw [List.forall_mem_cons] at h
    rw [trees, nodesFrom, List.map_append, List.map_map, ← ih h.2, h.1]
    simp only [Function.comp_def, List.length_cons, Nat.add_assoc, Nat.add_comm 1]

/-- Every node has one line, on the level of its path. -/
lemma tree_eq_map (v : Validator) (level : Nat) :
    v.tree level = v.nodes.map fun e => e.2.line (level + e.1.length) := by
  induction v using childInduction generalizing level with
  | h v ih =>
  rw [tree_eq, nodes_eq, trees_eq_map ih 0, List.map_cons]
  rfl

end Validator

/-! ### Names -/

/-- A text that begins with something other than a blank. -/
def Starts (s : String) : Prop := ∃ c ∈ s.toList.head?, c ≠ ' '

lemma Starts.append {s : String} (h : Starts s) (t : String) : Starts (s ++ t) := by
  obtain ⟨c, hc, hblank⟩ := h
  refine ⟨c, ?_, hblank⟩
  rw [String.toList_append, List.head?_append, Option.mem_def.mp hc]
  rfl

lemma Leaf.starts_named {word : String} (h : Starts word) (parameter : String) :
    Starts (named word parameter) := (h.append _).append _ |>.append _

lemma Leaf.starts_lengthName (unit : LengthUnit) (least most : Option Int) :
    Starts (lengthName unit least most) := by
  have hkind : Starts (unit.namePrefix ++ "length") := by
    cases unit
    · exact ⟨'l', rfl, by decide⟩
    · exact ⟨'b', rfl, by decide⟩
  have hleast : Starts "min-" := ⟨'m', rfl, by decide⟩
  have hmost : Starts "max-" := ⟨'m', rfl, by decide⟩
  unfold lengthName
  rcases least with _ | lo <;> rcases most with _ | hi
  · exact hkind
  · exact ((hmost.append _).append _).append _ |>.append _
  · exact ((hleast.append _).append _).append _ |>.append _
  · dsimp only
    split
    · simpa using ((hkind.append _).append _).append _
    · exact (((hleast.append _).append _).append _).append _ |>.append _ |>.append _

/-- The name of a leaf begins with a letter, unless the leaf is custom. -/
lemma Leaf.starts_name {l : Leaf} (h : l.isCustom = false) : Starts l.name := by
  cases l with
  | custom label check => cases h
  | length unit least most => exact starts_lengthName unit least most
  | range least most =>
    rcases least with _ | lo <;> rcases most with _ | hi
    · exact ⟨'n', rfl, by decide⟩
    · exact starts_named ⟨'m', rfl, by decide⟩ _
    · exact starts_named ⟨'m', rfl, by decide⟩ _
    · exact starts_named ⟨'r', rfl, by decide⟩ _
  | url schemes =>
    rw [name]
    split
    · exact ⟨'u', rfl, by decide⟩
    · exact starts_named ⟨'u', rfl, by decide⟩ _
  | intRange | fileExtension | oneOf | equals | contains | hasPrefix | hasSuffix | pattern =>
    exact starts_named ⟨_, rfl, by decide⟩ _
  | _ => exact ⟨_, rfl, by decide⟩

namespace Validator

/-- None of the leaves of a validator is custom. -/
def IsPure (v : Validator) : Prop := ∀ l ∈ v.leaves, l.isCustom = false

lemma IsPure.child {v w : Validator} (h : v.IsPure) (hw : w ∈ v.children) : w.IsPure := by
  intro l hl
  apply h
  cases v with
  | leaf m => cases hw
  | all vs => exact mem_leavesAll.mpr ⟨w, hw, hl⟩
  | any vs => exact mem_leavesAll.mpr ⟨w, hw, hl⟩
  | not v =>
    rw [List.mem_singleton.mp hw] at hl
    exact hl

lemma IsPure.starts_name {v : Validator} (h : v.IsPure) : Starts v.name := by
  cases v with
  | leaf l => exact Leaf.starts_name (h l (List.mem_singleton_self l))
  | all vs => exact Leaf.starts_named ⟨'a', rfl, by decide⟩ _
  | any vs => exact Leaf.starts_named ⟨'a', rfl, by decide⟩ _
  | not v => exact Leaf.starts_named ⟨'n', rfl, by decide⟩ _

/-! ### Indentation -/

/-- The number of blanks that a line begins with. -/
def indentation (line : String) : Nat := (line.toList.takeWhile (· = ' ')).length

lemma IsPure.indentation_line {v : Validator} (h : v.IsPure) (level : Nat) :
    indentation (v.line level) = 2 * level := by
  obtain ⟨c, hc, hblank⟩ := h.starts_name
  obtain ⟨rest, hname⟩ : ∃ rest, v.name.toList = c :: rest := List.head?_eq_some_iff.mp hc
  have hline : (v.line level).toList = List.replicate (2 * level) ' ' ++
      (c :: (rest ++ (" (" ++ v.kind ++ "): " ++ v.description).toList)) := by
    simp [line, hname]
  rw [indentation, hline, List.takeWhile_append_of_pos (by simp),
    List.takeWhile_cons_of_neg (by simpa using hblank)]
  simp

/-- Some lines of which the first one, if there is one, belongs above a level. -/
def Outdented (level : Nat) (lines : List String) : Prop :=
  ∀ line ∈ lines.head?, indentation line < 2 * level

/-! ### The shape of a tree from its lines -/

/-- Two trees have the same outline if every path leads to a node in both of them or in neither,
and the two nodes have as many children and the same line. -/
def SameOutline (v w : Validator) : Prop :=
  ∀ path, Option.Rel (fun m n => m.children.length = n.children.length ∧ m.line 0 = n.line 0)
    (v.at? path) (w.at? path)

lemma rel_getElem? {α β : Type} {R : α → β → Prop} {as : List α} {bs : List β}
    (h : List.Forall₂ R as bs) (i : Nat) : Option.Rel R as[i]? bs[i]? := by
  induction h generalizing i with
  | nil => exact .none
  | cons hab _ ih =>
    cases i with
    | zero => exact .some hab
    | succ i => exact ih i

lemma SameOutline.node {v w : Validator} (hline : v.line 0 = w.line 0)
    (h : List.Forall₂ SameOutline v.children w.children) : SameOutline v w := by
  intro path
  cases path with
  | nil => exact .some ⟨h.length_eq, hline⟩
  | cons i path =>
    have hchild := rel_getElem? h i
    rw [at?_cons, at?_cons]
    generalize v.children[i]? = a at hchild ⊢
    generalize w.children[i]? = b at hchild ⊢
    cases hchild with
    | none => exact .none
    | some hab => exact hab path

/-- The lines of several trees tell where each of them ends: the next one begins on the level of
the first, and what comes after all of them above it. -/
lemma trees_append_inj {vs : List Validator} {level : Nat}
    (htree : ∀ v ∈ vs, ∀ w : Validator, w.IsPure → ∀ rest rest', Outdented (level + 1) rest →
      Outdented (level + 1) rest' → v.tree level ++ rest = w.tree level ++ rest' →
        SameOutline v w ∧ rest = rest')
    (hvs : ∀ v ∈ vs, v.IsPure) {ws : List Validator} (hws : ∀ w ∈ ws, w.IsPure)
    {rest rest' : List String} (hrest : Outdented level rest) (hrest' : Outdented level rest')
    (h : trees level vs ++ rest = trees level ws ++ rest') :
    List.Forall₂ SameOutline vs ws ∧ rest = rest' := by
  -- a tree begins on the level, so that nothing above the level begins with one
  have hbegins : ∀ v : Validator, v.IsPure → ∀ vs rest', ¬ Outdented level
      (trees level (v :: vs) ++ rest') := by
    intro v hv vs rest' hout
    have hlt := hout (v.line level) (by simp [trees, tree_eq])
    rw [hv.indentation_line] at hlt
    omega
  have hnext : ∀ (us : List Validator) (lines : List String), (∀ u ∈ us, u.IsPure) →
      Outdented level lines → Outdented (level + 1) (trees level us ++ lines) := by
    intro us lines hus hlines line hline
    cases us with
    | nil =>
      have := hlines line hline
      omega
    | cons u us =>
      obtain rfl : u.line level = line := by simpa [trees, tree_eq] using hline
      rw [(hus u (by simp)).indentation_line]
      omega
  induction vs generalizing ws with
  | nil =>
    cases ws with
    | nil => exact ⟨.nil, h⟩
    | cons w ws =>
      rw [show trees level [] ++ rest = rest from rfl] at h
      rw [h] at hrest
      exact absurd hrest (hbegins w (hws w (by simp)) ws rest')
  | cons v vs ih =>
    cases ws with
    | nil =>
      rw [show trees level [] ++ rest' = rest' from rfl] at h
      rw [← h] at hrest'
      exact absurd hrest' (hbegins v (hvs v (by simp)) vs rest)
    | cons w ws =>
      rw [List.forall_mem_cons] at htree hvs hws
      rw [trees, trees, List.append_assoc, List.append_assoc] at h
      obtain ⟨hvw, hlines⟩ := htree.1 w hws.1 _ _ (hnext vs rest hvs.2 hrest)
        (hnext ws rest' hws.2 hrest') h
      obtain ⟨hrows, hrest⟩ := ih htree.2 hvs.2 hws.2 hlines
      exact ⟨.cons hvw hrows, hrest⟩

/-- The lines of a tree tell its outline, whatever lines come after them on its level or above. -/
lemma tree_append_inj {v w : Validator} (hv : v.IsPure) (hw : w.IsPure) {level : Nat}
    {rest rest' : List String} (hrest : Outdented (level + 1) rest)
    (hrest' : Outdented (level + 1) rest') (h : v.tree level ++ rest = w.tree level ++ rest') :
    SameOutline v w ∧ rest = rest' := by
  induction v using childInduction generalizing w level rest rest' with
  | h v ih =>
  rw [tree_eq, tree_eq] at h
  obtain ⟨hline, hlines⟩ := List.cons.inj h
  rw [line_eq level v, line_eq level w, String.append_right_inj] at hline
  have htree : ∀ u ∈ v.children, ∀ t : Validator, t.IsPure → ∀ lines lines',
      Outdented (level + 1 + 1) lines → Outdented (level + 1 + 1) lines' →
      u.tree (level + 1) ++ lines = t.tree (level + 1) ++ lines' →
        SameOutline u t ∧ lines = lines' :=
    fun u hu t ht lines lines' => ih u hu (hv.child hu) ht
  obtain ⟨hchildren, hrows⟩ := trees_append_inj htree (fun u hu => hv.child hu)
    (fun u hu => hw.child hu) hrest hrest' hlines
  exact ⟨.node hline hchildren, hrows⟩

end Validator

open Validator

namespace Registry

/-- Two built validators that are explained by the same lines have the same outline: the same
number of children at every node, and the same lines at nodes with the same path. The lines are
those of all nodes in the order of their paths, each behind two blanks for every step. -/
theorem sameOutline_of_tree_eq {text text' : String} {depth depth' : Int} {v w : Validator}
    (hv : build text depth = .ok v) (hw : build text' depth' = .ok w) :
    (v.tree 0 = w.tree 0 → SameOutline v w) ∧
    ∃ nodes : List (List Nat × Validator),
      (∀ path n, (path, n) ∈ nodes ↔ v.at? path = some n) ∧
      nodes.Pairwise (fun d e => d.1 < e.1) ∧
      v.tree 0 = nodes.map fun e =>
        String.ofList (List.replicate (2 * e.1.length) ' ') ++ e.2.line 0 := by
  constructor
  · intro h
    have hnone : Outdented 1 [] := by simp [Outdented]
    have hlines : v.tree 0 ++ [] = w.tree 0 ++ [] := by rw [h]
    exact (tree_append_inj (not_custom_of_build hv) (not_custom_of_build hw) hnone hnone hlines).1
  · refine ⟨v.nodes, fun _ _ => mem_nodes_iff, pairwise_nodes v, ?_⟩
    rw [tree_eq_map]
    refine List.map_congr_left fun e _ => ?_
    rw [line_eq, Nat.zero_add]

/-- Two bounds that differ by less than what the lines show of them. -/
theorem sameOutline_of_tree_eq_bounds :
    let one : Bound := .real (.finite false 4503599627370496 (-52))
    let more : Bound := .real (.finite false 4503600077730459 (-52))
    let two : Bound := .real (.finite false 4503599627370496 (-51))
    let v : Validator := .all [.leaf (.range (some one) none), .leaf (.range none (some two))]
    let w : Validator := .all [.leaf (.range (some more) none), .leaf (.range none (some two))]
    build "all(min(1),max(2))" 0 = .ok v ∧ build "all(min(1.0000001),max(2))" 0 = .ok w ∧
      v.same w = false ∧ SameOutline v w ∧
      ∃ nodes : List (List Nat × Validator),
        (∀ path n, (path, n) ∈ nodes ↔ v.at? path = some n) ∧
        nodes.Pairwise (fun d e => d.1 < e.1) ∧
        v.tree 0 = nodes.map fun e =>
          String.ofList (List.replicate (2 * e.1.length) ' ') ++ e.2.line 0 := by
  intro one more two v w
  have hone : Binary64.read? "1" = some (.finite false 4503599627370496 (-52)) := by
    decide +kernel
  have hmore : Binary64.read? "1.0000001" = some (.finite false 4503600077730459 (-52)) := by
    decide +kernel
  have htwo : Binary64.read? "2" = some (.finite false 4503599627370496 (-51)) := by
    decide +kernel
  have hv : build "all(min(1),max(2))" 0 = .ok v := build_halves hone htwo (by decide)
  have hw : build "all(min(1.0000001),max(2))" 0 = .ok w := build_halves hmore htwo (by decide)
  have hsame : v.same w = false := by decide +kernel
  have hshown : one.text = more.text := by
    simp only [one, more, Bound.text, Bound.value, Value.message]
    decide +kernel
  have hname : Leaf.name (.range (some one) none) = Leaf.name (.range (some more) none) :=
    congrArg (Leaf.named "min") hshown
  have hdescription : Leaf.description (.range (some one) none) =
      Leaf.description (.range (some more) none) := congrArg ("Minimum value " ++ ·) hshown
  have hlines : v.tree 0 = w.tree 0 := by
    simp only [v, w, Validator.tree, trees, line, Validator.name, namesOf, Validator.description,
      hname, hdescription]
    rfl
  obtain ⟨hinj, hnodes⟩ := sameOutline_of_tree_eq hv hw
  exact ⟨hv, hw, hsame, hinj hlines, hnodes⟩

end Registry

end ValueSpec
