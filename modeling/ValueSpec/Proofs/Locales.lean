import Mathlib.Data.List.Induction
import Mathlib.Data.List.TakeWhile
import Mathlib.Tactic.Lemma
import ValueSpec.Proofs.Text
import ValueSpec.Suite

namespace ValueSpec.Catalog

/-! ### Keys -/

/-- A text is the key of a locale: what is left of the locale without the blanks around it, in lower
case and with a hyphen for every underscore. -/
def IsKey (locale key : String) : Prop :=
  ∃ before inner after, locale.toList = before ++ inner ++ after ∧
    (∀ c ∈ before ++ after, Text.isBlank c) ∧
    (∀ c ∈ inner.head?, Text.isBlank c = false) ∧
    (∀ c ∈ inner.getLast?, Text.isBlank c = false) ∧
    key.toList = (Text.lowerChars inner).map fun c => if c = '_' then '-' else c

lemma isKey_iff {locale key : String} : IsKey locale key ↔ Table.key locale = key := by
  have htext : Table.key locale = key ↔
      (Text.lowerChars (Text.stripChars locale.toList)).map (fun c => if c = '_' then '-' else c) =
        key.toList := by
    rw [Table.key, String.ext_iff, String.toList_map, Text.lower, String.toList_ofList,
      Text.toList_strip]
  rw [htext]
  constructor
  · rintro ⟨before, inner, after, hlocale, hblank, hhead, hlast, hkey⟩
    rw [List.forall_mem_append] at hblank
    rw [hlocale, Text.stripChars_pad hblank.1 hblank.2, Text.stripChars_eq_self hhead hlast, hkey]
  · intro hkey
    obtain ⟨before, after, hlocale, hbefore, hafter⟩ := Text.exists_pad locale.toList
    exact ⟨before, _, after, hlocale, List.forall_mem_append.mpr ⟨hbefore, hafter⟩,
      Text.head?_stripChars_not_blank, Text.getLast?_stripChars_not_blank, hkey.symm⟩

/-! ### Languages -/

/-- A text is the language of a key: what stands before its first hyphen. -/
structure IsLanguage (key lang : String) : Prop where
  no_hyphen : '-' ∉ lang.toList
  leads : key = lang ∨ ∃ region, key = lang ++ "-" ++ region

lemma isLanguage_iff {key lang : String} : IsLanguage key lang ↔ Table.language key = lang := by
  have htext : Table.language key = lang ↔ key.toList.takeWhile (· ≠ '-') = lang.toList := by
    rw [Table.language, String.ext_iff, String.toList_ofList]
  rw [htext]
  constructor
  · rintro ⟨hhyphen, rfl | ⟨region, rfl⟩⟩
    · rw [List.takeWhile_eq_self_iff]
      intro c hc
      simpa using ne_of_mem_of_not_mem hc hhyphen
    · have hlang : ∀ c ∈ lang.toList, decide (c ≠ '-') = true := by
        intro c hc
        simpa using ne_of_mem_of_not_mem hc hhyphen
      rw [String.toList_append, String.toList_append, List.append_assoc,
        List.takeWhile_append_of_pos hlang]
      simp
  · intro htake
    constructor
    · intro hmem
      rw [← htake] at hmem
      simpa using List.mem_takeWhile_imp hmem
    · have hsplit : lang.toList ++ key.toList.dropWhile (· ≠ '-') = key.toList := by
        rw [← htake, List.takeWhile_append_dropWhile]
      -- what comes behind the language is nothing or begins with the hyphen
      cases hrest : key.toList.dropWhile (· ≠ '-') with
      | nil =>
        left
        rw [hrest, List.append_nil] at hsplit
        exact String.ext hsplit.symm
      | cons c region =>
        right
        have hc : c = '-' := by
          have hhead := List.head?_dropWhile_not (· ≠ '-') key.toList
          rw [hrest] at hhead
          simpa using hhead
        refine ⟨String.ofList region, ?_⟩
        rw [String.ext_iff, ← hsplit, hrest, hc]
        simp

/-! ### The last catalog under a key -/

/-- A catalog is the last of those that were registered under a key. -/
def IsLast (cats : List Catalog) (key : String) (cat : Catalog) : Prop :=
  ∃ before after, cats = before ++ cat :: after ∧ IsKey cat.locale key ∧
    ∀ c ∈ after, ¬ IsKey c.locale key

/-- The last catalog under a key is the first from behind. -/
lemma isLast_iff {cats : List Catalog} {key : String} {cat : Catalog} :
    IsLast cats key cat ↔ cats.reverse.find? (Table.key ·.locale = key) = some cat := by
  simp only [IsLast, isKey_iff]
  rw [List.find?_eq_some_iff_append]
  constructor
  · rintro ⟨before, after, rfl, hkey, hafter⟩
    refine ⟨by simpa using hkey, after.reverse, before.reverse, by simp, ?_⟩
    simpa using hafter
  · rintro ⟨hkey, behind, before, hsplit, hbehind⟩
    refine ⟨before.reverse, behind.reverse, ?_, by simpa using hkey, ?_⟩
    · rw [← List.reverse_inj, hsplit]
      simp
    · simpa using hbehind

namespace Table

/-- The table after some catalogs have been registered. -/
def registered (cats : List Catalog) : Table := cats.foldl register initial

/-- The first table is that in which English has been registered. -/
lemma initial_eq : initial = register [] english := by
  have hkey : key english.locale = "en" := by decide +kernel
  rw [register, hkey]
  rfl

/-- Under a key a table has the last catalog that was registered there. -/
lemma get?_foldl_register (cats : List Catalog) (k : String) :
    Record.get? (cats.foldl register []) k = cats.reverse.find? (key ·.locale = k) := by
  induction cats using List.reverseRecOn with
  | nil => rfl
  | append_singleton cats cat ih =>
    rw [List.foldl_append, List.foldl_cons, List.foldl_nil, register, Record.get?_set, ih,
      List.reverse_append, List.reverse_singleton, List.singleton_append, List.find?_cons]
    by_cases hk : k = key cat.locale
    · simp [hk]
    · simp [hk, Ne.symm hk]

/-- English counts as registered before all others. -/
lemma get?_registered_iff {cats : List Catalog} {k : String} {cat : Catalog} :
    (registered cats).get? k = some cat ↔ IsLast (english :: cats) k cat := by
  rw [isLast_iff, ← get?_foldl_register, List.foldl_cons, ← initial_eq, registered]

lemma get?_registered_eq_none_iff {cats : List Catalog} {k : String} :
    (registered cats).get? k = none ↔ ∀ cat, ¬ IsLast (english :: cats) k cat := by
  rw [Option.eq_none_iff_forall_ne_some]
  exact forall_congr' fun cat => not_congr get?_registered_iff

/-! ### Runs -/

/-- Look for the catalog of a locale. The answer is a catalog, and the events of finding it. -/
def lookUp (t : Table) (locale : String) : Catalog × List Log.Event :=
  (t.find locale, Log.catalogEvents t locale)

end Table

/-- What a table of catalogs is asked to do. -/
inductive Request
  | register (cat : Catalog)
  | look (locale : String)

/-- The catalog that a request brings, if it brings one. -/
def Request.catalog? : Request → Option Catalog
  | register cat => some cat
  | look _ => none

namespace Table

/-- The table after a request. -/
def step (t : Table) : Request → Table
  | .register cat => t.register cat
  | .look _ => t

/-- The table after several requests. -/
def run (t : Table) (requests : List Request) : Table := requests.foldl step t

/-- Only the registrations of a run matter. -/
lemma run_eq_registered (requests : List Request) :
    run initial requests = registered (requests.filterMap Request.catalog?) := by
  rw [registered, List.foldl_filterMap, run]
  congr 1
  funext t request
  cases request <;> rfl

end Table

/-- The answer for a locale after some catalogs have been registered. -/
inductive Answer (cats : List Catalog) (locale : String) : Catalog → List Log.Event → Prop
  /-- There is a catalog under the key of the locale. -/
  | exact {key : String} {cat : Catalog} : IsKey locale key → IsLast cats key cat →
      Answer cats locale cat []
  /-- There is none, but there is one under the language. -/
  | language {key lang : String} {cat : Catalog} : IsKey locale key →
      (∀ c, ¬ IsLast cats key c) → IsLanguage key lang → IsLast cats lang cat →
      Answer cats locale cat []
  /-- There is neither. -/
  | missing {key lang : String} : IsKey locale key → (∀ c, ¬ IsLast cats key c) →
      IsLanguage key lang → (∀ c, ¬ IsLast cats lang c) →
      Answer cats locale english [Log.catalogMissing locale]

namespace Table

lemma lookUp_registered_iff {cats : List Catalog} {locale : String} {cat : Catalog}
    {events : List Log.Event} :
    (registered cats).lookUp locale = (cat, events) ↔
      Answer (english :: cats) locale cat events := by
  rw [lookUp, find, Log.catalogEvents, find?]
  constructor
  · intro h
    have hkey : IsKey locale (key locale) := isKey_iff.mpr rfl
    have hlanguage : IsLanguage (key locale) (language (key locale)) := isLanguage_iff.mpr rfl
    cases hexact : (registered cats).get? (key locale) with
    | some found =>
      obtain ⟨rfl, rfl⟩ : found = cat ∧ [] = events := by simpa [hexact] using h
      exact .exact hkey (get?_registered_iff.mp hexact)
    | none =>
      have hnone := get?_registered_eq_none_iff.mp hexact
      cases hlang : (registered cats).get? (language (key locale)) with
      | some found =>
        obtain ⟨rfl, rfl⟩ : found = cat ∧ [] = events := by simpa [hexact, hlang] using h
        exact .language hkey hnone hlanguage (get?_registered_iff.mp hlang)
      | none =>
        obtain ⟨rfl, rfl⟩ : english = cat ∧ [Log.catalogMissing locale] = events := by
          simpa [hexact, hlang] using h
        exact .missing hkey hnone hlanguage (get?_registered_eq_none_iff.mp hlang)
  · intro h
    cases h with
    | exact hkey hlast =>
      obtain rfl := isKey_iff.mp hkey
      simp [get?_registered_iff.mpr hlast]
    | language hkey hnone hlang hlast =>
      obtain rfl := isKey_iff.mp hkey
      obtain rfl := isLanguage_iff.mp hlang
      simp [get?_registered_eq_none_iff.mpr hnone, get?_registered_iff.mpr hlast]
    | missing hkey hnone hlang hmissing =>
      obtain rfl := isKey_iff.mp hkey
      obtain rfl := isLanguage_iff.mp hlang
      simp [get?_registered_eq_none_iff.mpr hnone, get?_registered_eq_none_iff.mpr hmissing]

/-- A catalog is not looked at for a locale with another key and another language. -/
lemma lookUp_register_of_ne (t : Table) {cat : Catalog} {locale : String}
    (hkey : key locale ≠ key cat.locale) (hlang : language (key locale) ≠ key cat.locale) :
    (t.register cat).lookUp locale = t.lookUp locale := by
  have hfind : (t.register cat).find? locale = t.find? locale := by
    rw [find?, find?, register, Record.get?_set_of_ne t cat hkey,
      Record.get?_set_of_ne t cat hlang]
  rw [lookUp, lookUp, find, find, Log.catalogEvents, Log.catalogEvents, hfind]

/-- At any time the answer for a locale is the last catalog registered under its key, or else under
its language, or else English with an event that says so. Only registrations change the table, and
a registration changes the answers for the locales with its key or language only. -/
theorem lookUp_run (requests : List Request) (locale : String) :
    (∀ cat events, (run initial requests).lookUp locale = (cat, events) ↔
      Answer (english :: requests.filterMap Request.catalog?) locale cat events) ∧
    run initial requests = registered (requests.filterMap Request.catalog?) ∧
    ∀ new, (run initial (requests ++ [.register new])).lookUp locale ≠
        (run initial requests).lookUp locale →
      ∃ key changed, IsKey locale key ∧ IsKey new.locale changed ∧
        (key = changed ∨ IsLanguage key changed) := by
  refine ⟨?_, run_eq_registered requests, ?_⟩
  · intro cat events
    rw [run_eq_registered]
    exact lookUp_registered_iff
  · intro new hchanged
    refine ⟨_, _, isKey_iff.mpr rfl, isKey_iff.mpr rfl, ?_⟩
    by_contra hother
    rw [not_or, isLanguage_iff] at hother
    rw [run, List.foldl_append] at hchanged
    exact hchanged (lookUp_register_of_ne _ hother.1 hother.2)

/-- A French catalog that replaces an older one under another spelling is found for Canada. -/
theorem lookUp_run_french :
    let old : Catalog := { locale := " FR" }
    let new : Catalog := { locale := "fr", previewChars := 7 }
    key "fr_CA" = "fr-ca" ∧ key " FR" = "fr" ∧
    (run initial [.register old, .look "de"]).lookUp "fr_CA" = (old, []) ∧
    (run initial [.register old, .look "de", .register new]).lookUp "fr_CA" = (new, []) ∧
    ∃ key changed, IsKey "fr_CA" key ∧ IsKey new.locale changed ∧
      (key = changed ∨ IsLanguage key changed) := by
  intro old new
  have henglish : key english.locale = "en" := by decide +kernel
  have hold : key old.locale = "fr" := by decide +kernel
  have hnew : key new.locale = "fr" := by decide +kernel
  have hcanada : key "fr_CA" = "fr-ca" := by decide +kernel
  have hlang : IsLanguage "fr-ca" "fr" := ⟨by decide, .inr ⟨"ca", rfl⟩⟩
  have hbefore : (run initial [.register old, .look "de"]).lookUp "fr_CA" = (old, []) := by
    refine ((lookUp_run [.register old, .look "de"] "fr_CA").1 _ _).mpr
      (.language (isKey_iff.mpr hcanada) ?_ hlang ?_)
    · show ∀ c, ¬ IsLast [english, old] "fr-ca" c
      simp [isLast_iff, henglish, hold]
    · exact ⟨[english], [], rfl, isKey_iff.mpr hold, by simp⟩
  have hafter : (run initial [.register old, .look "de", .register new]).lookUp "fr_CA" =
      (new, []) := by
    refine ((lookUp_run [.register old, .look "de", .register new] "fr_CA").1 _ _).mpr
      (.language (isKey_iff.mpr hcanada) ?_ hlang ?_)
    · show ∀ c, ¬ IsLast [english, old, new] "fr-ca" c
      simp [isLast_iff, henglish, hold, hnew]
    · exact ⟨[english, old], [], rfl, isKey_iff.mpr hnew, by simp⟩
  refine ⟨hcanada, hold, hbefore, hafter,
    (lookUp_run [.register old, .look "de"] "fr_CA").2.2 new ?_⟩
  rw [hbefore, List.cons_append, List.cons_append, List.nil_append, hafter]
  simp [old, new]

end Table

end ValueSpec.Catalog
