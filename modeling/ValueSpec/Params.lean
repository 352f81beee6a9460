import ValueSpec.Value

namespace ValueSpec

/-- A list of named things in which each name is meant once. -/
abbrev Record (α : Type) := List (String × α)

namespace Record

variable {α β : Type}

/-- Give a name a value: in its place if the name is there, at the end otherwise. -/
def set (r : Record α) (name : String) (a : α) : Record α :=
  match r with
  | [] => [(name, a)]
  | (n, b) :: rest => if n = name then (n, a) :: rest else (n, b) :: set rest name a

def overlay (r upper : Record α) : Record α := upper.foldl (fun r e => r.set e.1 e.2) r

def get? (r : Record α) (name : String) : Option α := List.lookup name r

def without (r : Record α) (name : String) : Record α := r.filter (·.1 ≠ name)

def names (r : Record α) : List String := r.map (·.1)

def mapValues (f : α → β) (r : Record α) : Record β := r.map fun e => (e.1, f e.2)

@[simp] theorem overlay_nil (r : Record α) : r.overlay [] = r := rfl

@[simp] theorem overlay_cons (r upper : Record α) (e : String × α) :
    r.overlay (e :: upper) = (r.set e.1 e.2).overlay upper := rfl

theorem get?_set_self (r : Record α) (name : String) (a : α) :
    (r.set name a).get? name = some a := by
  induction r with
  | nil => simp [set, get?]
  | cons e rest ih =>
    obtain ⟨n, b⟩ := e
    by_cases h : n = name
    · simp [set, get?, h]
    · simpa [set, get?, h, List.lookup_cons, Ne.symm h, beq_eq_false_iff_ne.2 (Ne.symm h)] using ih

theorem get?_set_of_ne (r : Record α) {name other : String} (a : α) (h : other ≠ name) :
    (r.set name a).get? other = r.get? other := by
  induction r with
  | nil => simp [set, get?, List.lookup_cons, beq_eq_false_iff_ne.2 h]
  | cons e rest ih =>
    obtain ⟨n, b⟩ := e
    by_cases hn : n = name
    · subst hn
      simp [set, get?, List.lookup_cons, beq_eq_false_iff_ne.2 h]
    · simp only [get?] at ih
      simp [set, get?, hn, List.lookup_cons, ih]

/-- A name means what it was last set to. -/
theorem get?_set (r : Record α) (name other : String) (a : α) :
    (r.set name a).get? other = if other = name then some a else r.get? other := by
  by_cases h : other = name
  · subst h
    simp [get?_set_self]
  · simp [get?_set_of_ne r a h, h]

end Record

abbrev Params := Record Value

def Params.integers (params : Params) : List Int := params.flatMap (·.2.integers)

end ValueSpec
