import ValueSpec.Proofs.Nesting

namespace ValueSpec

namespace Registry

/-! ### Specs inside `not` -/

/-- What `not` has between its parentheses is built one level deeper, unless it is blank. -/
lemma build_not {raw : String} (hraw : Text.stripChars raw.toList ≠ []) {depth : Int}
    (hdepth : depth ≤ 10) :
    build ("not(" ++ raw ++ ")") depth = build raw (depth + 1) >>= fun v => pure (.not v) := by
  have htext : "not(" ++ raw ++ ")" =
      String.ofList ("not".toList ++ '(' :: (raw.toList ++ [')'])) := by
    simp [String.ext_iff]
  rw [build, levels_eq_succ hdepth, htext, buildAt_not (by decide) hraw, String.ofList_toList,
    build]

/-- A call inside `not` is never blank, whatever its argument is. -/
lemma build_not_call (name raw : String) {depth : Int} (hdepth : depth ≤ 10) :
    build ("not(" ++ (name ++ "(" ++ raw ++ ")") ++ ")") depth =
      build (name ++ "(" ++ raw ++ ")") (depth + 1) >>= fun v => pure (.not v) := by
  have hcall : (name ++ "(" ++ raw ++ ")").toList =
      name.toList ++ '(' :: (raw.toList ++ [')']) := by simp
  apply build_not _ hdepth
  rw [hcall]
  exact stripChars_call_ne_nil _ _

/-! ### Patterns -/

section

variable {raw : String} (hraw : raw ≠ "") {depth : Int}

include hraw

lemma build_regex_eq (hdepth : depth ≤ 10) :
    build ("regex(" ++ raw ++ ")") depth = pattern raw :=
  build_whole lookup?_regex hdepth rfl hraw

lemma build_mustmatch (hdepth : depth ≤ 10) :
    build ("mustmatch(" ++ raw ++ ")") depth = pattern raw := by
  have hlookup : lookup? "mustmatch" = some { name := "mustmatch", form := .whole pattern } :=
    lookup?_of_isLower (by decide)
  exact build_whole hlookup hdepth rfl hraw

lemma build_mustnotmatch (hdepth : depth ≤ 10) :
    build ("mustnotmatch(" ++ raw ++ ")") depth =
      pattern raw >>= fun v => pure (.not v) := by
  have hlookup : lookup? "mustnotmatch" =
      some { name := "mustnotmatch", form := .whole fun arg => return .not (← pattern arg) } :=
    lookup?_of_isLower (by decide)
  exact build_whole hlookup hdepth rfl hraw

end

/-! ### Choices -/

section

variable {raw : String} (hraw : splitArguments raw ≠ []) {depth : Int}

include hraw

lemma build_isoneof (hdepth : depth ≤ 10) :
    build ("isoneof(" ++ raw ++ ")") depth =
      .ok (.leaf (.oneOf ((splitArguments raw).map unescapeValue))) := by
  have hlookup : lookup? "isoneof" =
      some { name := "isoneof", form := .some fun values => .leaf (.oneOf values) } :=
    lookup?_of_isLower (by decide)
  exact build_some hlookup hdepth rfl hraw

lemma build_isnotoneof (hdepth : depth ≤ 10) :
    build ("isnotoneof(" ++ raw ++ ")") depth =
      .ok (.not (.leaf (.oneOf ((splitArguments raw).map unescapeValue)))) := by
  have hlookup : lookup? "isnotoneof" =
      some { name := "isnotoneof", form := .some fun values => .not (.leaf (.oneOf values)) } :=
    lookup?_of_isLower (by decide)
  exact build_some hlookup hdepth rfl hraw

end

/-! ### Long forms -/

/-- Each short form has the result of its long form, a validator or an error, wherever there is a
level for the spec inside `not`. A choice always becomes a validator if there are values. -/
theorem build_short_eq_long (raw : String) (depth : Int) :
    (raw ≠ "" → depth ≤ 9 →
      build ("mustnotmatch(" ++ raw ++ ")") depth = build ("not(regex(" ++ raw ++ "))") depth) ∧
    (raw ≠ "" → depth ≤ 10 →
      build ("mustmatch(" ++ raw ++ ")") depth = build ("regex(" ++ raw ++ ")") depth) ∧
    (splitArguments raw ≠ [] → depth ≤ 9 →
      ∃ v, build ("isnotoneof(" ++ raw ++ ")") depth = .ok v ∧
        build ("not(isoneof(" ++ raw ++ "))") depth = .ok v) := by
  have hlong (name : String) :
      "not(" ++ (name ++ "(" ++ raw ++ ")") ++ ")" = "not(" ++ name ++ "(" ++ raw ++ "))" := by
    simp [String.ext_iff]
  refine ⟨?mustnotmatch, ?mustmatch, ?isnotoneof⟩
  case mustnotmatch =>
    intro hraw hdepth
    have hdeeper : depth + 1 ≤ 10 := by omega
    calc build ("mustnotmatch(" ++ raw ++ ")") depth
      _ = pattern raw >>= fun v => pure (.not v) := build_mustnotmatch hraw (by omega)
      _ = build ("regex(" ++ raw ++ ")") (depth + 1) >>= fun v => pure (.not v) := by
          rw [build_regex_eq hraw hdeeper]
      _ = build ("not(" ++ ("regex(" ++ raw ++ ")") ++ ")") depth :=
          (build_not_call "regex" raw (by omega)).symm
      _ = build ("not(regex(" ++ raw ++ "))") depth := congrArg (build · depth) (hlong "regex")
  case mustmatch =>
    intro hraw hdepth
    rw [build_mustmatch hraw hdepth, build_regex_eq hraw hdepth]
  case isnotoneof =>
    intro hraw hdepth
    have hdeeper : depth + 1 ≤ 10 := by omega
    refine ⟨_, build_isnotoneof hraw (by omega), ?_⟩
    calc build ("not(isoneof(" ++ raw ++ "))") depth
      _ = build ("not(" ++ ("isoneof(" ++ raw ++ ")") ++ ")") depth :=
          congrArg (build · depth) (hlong "isoneof").symm
      _ = build ("isoneof(" ++ raw ++ ")") (depth + 1) >>= fun v => pure (.not v) :=
          build_not_call "isoneof" raw (by omega)
      _ = .ok (.not (.leaf (.oneOf ((splitArguments raw).map unescapeValue)))) := by
          rw [build_isoneof hraw hdeeper]
          rfl

/-- A text with blanks at its ends, an escaped parenthesis, and a comma between braces. -/
theorem build_short_eq_long_brackets :
    let raw := " (a\\)|b)\x7b1,2\x7d "
    build ("mustnotmatch(" ++ raw ++ ")") 9 = build ("not(regex(" ++ raw ++ "))") 9 ∧
      build ("mustmatch(" ++ raw ++ ")") 10 = build ("regex(" ++ raw ++ ")") 10 ∧
      ∃ v, build ("isnotoneof(" ++ raw ++ ")") 9 = .ok v ∧
        build ("not(isoneof(" ++ raw ++ "))") 9 = .ok v := by
  intro raw
  have hne : raw ≠ "" := by decide
  have hargs : splitArguments raw ≠ [] := by decide
  obtain ⟨hmustnotmatch, -, hisnotoneof⟩ := build_short_eq_long raw 9
  obtain ⟨-, hmustmatch, -⟩ := build_short_eq_long raw 10
  exact ⟨hmustnotmatch hne le_rfl, hmustmatch hne le_rfl, hisnotoneof hargs le_rfl⟩

end Registry

end ValueSpec
