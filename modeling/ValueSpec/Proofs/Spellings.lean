import Mathlib.Data.List.Lattice
import Mathlib.Data.List.Nodup
import Mathlib.Data.List.Pairwise
import ValueSpec.Proofs.Building

namespace ValueSpec

namespace Registry

/-- No name occurs twice in the registry. -/
lemma nodup_names : (entries.flatMap Entry.names).Nodup := by decide +kernel

/-- An entry is determined by any of its names. -/
lemma eq_of_mem_names {e e' : Entry} (he : e ∈ entries) (he' : e' ∈ entries) {name : String}
    (h : name ∈ e.names) (h' : name ∈ e'.names) : e = e' := by
  by_contra hne
  have hdisjoint := (List.nodup_flatMap.mp nodup_names).2
  have hsymm : Std.Symm (Function.onFun List.Disjoint Entry.names) :=
    ⟨fun _ _ hab => List.Disjoint.symm hab⟩
  exact hdisjoint.forall he he' hne h h'

/-- What finds an entry are the spellings of its names. -/
theorem lookup?_eq_some_iff {e : Entry} (he : e ∈ entries) {n : String} :
    lookup? n = some e ↔ ∃ name ∈ e.names, Text.fold (Text.strip n) = Text.fold name := by
  constructor
  · intro h
    have hmem := fold_mem_names h
    exact ⟨_, hmem, (fold_of_mem_names he hmem).symm⟩
  · rintro ⟨name, hname, hfold⟩
    rw [fold_of_mem_names he hname] at hfold
    have hsome : (entries.find? fun e => e.names.contains name).isSome := by
      rw [List.find?_isSome]
      exact ⟨e, he, List.contains_iff_mem.mpr hname⟩
    obtain ⟨e', he'⟩ := Option.isSome_iff_exists.mp hsome
    have hname' : name ∈ e'.names := by simpa using List.find?_some he'
    rw [lookup?_eq_find?, hfold, he',
      eq_of_mem_names he (List.mem_of_find?_eq_some he') hname hname']

/-- An entry is found by its own name. -/
lemma lookup?_name {e : Entry} (he : e ∈ entries) : lookup? e.name = some e := by
  have hstrip : ∀ e ∈ entries, Text.strip e.name = e.name := by decide +kernel
  exact (lookup?_eq_some_iff he).mpr ⟨e.name, List.mem_cons_self, by rw [hstrip e he]⟩

/-- Names that find the same entry are built alike, with the same text between parentheses and
without one. -/
lemma build_congr {n n' : String} {e : Entry} (h : lookup? n = some e) (h' : lookup? n' = some e)
    (depth : Int) :
    (∀ raw, build (n ++ "(" ++ raw ++ ")") depth = build (n' ++ "(" ++ raw ++ ")") depth) ∧
      build n depth = build n' depth := by
  by_cases hdepth : depth ≤ 10
  · constructor
    · intro raw
      rw [build_call h hdepth, build_call h' hdepth]
    · rw [build_name h hdepth, build_name h' hdepth]
  · -- beyond the deepest level no text is looked at
    have hlevels : levels depth = 0 := by
      simp only [levels, maxDepth]
      omega
    have hdeep (text : String) : build text depth = Build.refuse (.tooDeep maxDepth) := by
      rw [build, hlevels, buildAt]
    constructor
    · intro raw
      rw [hdeep, hdeep]
    · rw [hdeep, hdeep]

/-- However a name of an entry is spelt, it finds the entry, and what is built does not depend on
the spelling, whatever stands between the parentheses and whether there are any. -/
theorem build_spelling {e : Entry} (he : e ∈ entries) {n name : String} (hname : name ∈ e.names)
    (h : Text.fold (Text.strip n) = Text.fold name) :
    lookup? n = some e ∧ ∀ depth,
      (∀ raw, build (n ++ "(" ++ raw ++ ")") depth = build (e.name ++ "(" ++ raw ++ ")") depth) ∧
      build n depth = build e.name depth := by
  have hlookup := (lookup?_eq_some_iff he).mpr ⟨name, hname, h⟩
  exact ⟨hlookup, build_congr hlookup (lookup?_name he)⟩

/-- Another name of an entry, with blanks of two scripts around it, a capital letter, and a long s
in place of an s, before arguments with an escaped comma. -/
theorem build_spelling_extension :
    ∃ e ∈ entries, e.name = "fileext" ∧ "extension" ∈ e.names ∧
      Text.fold (Text.strip " Extenſion\u2003") = Text.fold "extension" ∧
      build " Extenſion\u2003(.tar\\,gz, .ZIP)" 3 = build "fileext(.tar\\,gz, .ZIP)" 3 ∧
      build " Extenſion\u2003" 3 = build "fileext" 3 := by
  have hlookup : lookup? "fileext" =
      some { name := "fileext", aliases := ["extension"]
             form := .some fun extensions => .leaf (.fileExtension extensions) } :=
    lookup?_of_isLower (by decide)
  have he := mem_entries_of_lookup? hlookup
  have hname : "extension" ∈ ["fileext", "extension"] := by simp
  have hfold : Text.fold (Text.strip " Extenſion\u2003") = Text.fold "extension" := by
    decide +kernel
  obtain ⟨-, hbuild⟩ := build_spelling he hname hfold
  exact ⟨_, he, rfl, hname, hfold, (hbuild 3).1 ".tar\\,gz, .ZIP", (hbuild 3).2⟩

end Registry

end ValueSpec
