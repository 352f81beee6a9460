import ValueSpec.Proofs.Faults
import ValueSpec.Proofs.Locales
import ValueSpec.Proofs.Pattern.Pairs
import ValueSpec.Proofs.Refutations

namespace ValueSpec

open Registry

/-! ### Documents -/

namespace Log

/-- What the log has in the place of the text of a spec or of a reason: the text, or its first two
hundred characters and its true length if it is longer. -/
inductive Shown (text : String) : String → Prop
  | whole : text.length ≤ 200 → Shown text text
  | cut {start rest : String} : text = start ++ rest → start.length = 200 → rest ≠ "" →
      Shown text (start ++ "... (" ++ toString text.length ++ " chars)")

lemma shown_shorten (text : String) : Shown text (shorten text) := by
  rw [shorten]
  split_ifs with hlong
  · rw [maxFieldChars, ← String.length_toList] at hlong
    have htext : text = String.ofList (text.toList.take 200) ++
        String.ofList (text.toList.drop 200) := by
      rw [String.ext_iff]
      simp
    refine .cut htext ?_ ?_
    · rw [String.length_ofList, List.length_take, maxFieldChars]
      omega
    · intro hrest
      have hnil := congrArg String.toList hrest
      rw [String.toList_ofList, String.toList_empty, List.drop_eq_nil_iff] at hnil
      omega
  · exact .whole (not_lt.mp hlong)

/-- Writing keeps the names of fields. -/
lemma get?_map_written (r : Record Json) (name : String) :
    Record.get? (r.map written) name = (r.get? name).map fun v => (written (name, v)).2 := by
  induction r with
  | nil => rfl
  | cons field r ih =>
    obtain ⟨n, v⟩ := field
    have hname : written (n, v) = (n, (written (n, v)).2) := by cases v <;> rfl
    rw [List.map_cons, hname, Record.get?, Record.get?, List.lookup_cons, List.lookup_cons]
    cases h : name == n with
    | true =>
      obtain rfl := beq_iff_eq.mp h
      rfl
    | false => exact ih

section

variable {p : Processors} (context : Record Json) (e : Event)

/-- A field that the processors leave is in the document, whatever the library adds. -/
lemma get?_document_of_processors {name text : String} (hname : name ≠ "library")
    (h : (p context e).get? name = some (.text text)) :
    (document p context e).get? name =
      some (.text (if longFields.contains name then shorten text else text)) := by
  rw [document, get?_map_written]
  split
  · rw [h]
    rfl
  · rw [Record.get?_set_of_ne _ _ hname, h]
    rfl

variable (hp : p.Documented)

include hp

lemma get?_document_level :
    (document p context e).get? "level" = some (.text e.level.name) :=
  get?_document_of_processors context e (by decide) (hp.level context e)

lemma get?_document_logger :
    (document p context e).get? "logger" = some (.text ("flagspec." ++ e.domain)) :=
  get?_document_of_processors context e (by decide) (hp.logger context e)

lemma get?_document_event : (document p context e).get? "event" = some (.text e.name) :=
  get?_document_of_processors context e (by decide) (hp.event context e)

/-- The fields of an event are in its document, whatever the context has. -/
lemma get?_document {name text : String}
    (hname : name ∉ ["event", "level", "logger", "timestamp", "positional_args", "stack_info",
      "exc_info", "library"])
    (hfields : e.fields.names.Nodup) (h : e.fields.get? name = some (.text text)) :
    (document p context e).get? name =
      some (.text (if longFields.contains name then shorten text else text)) := by
  refine get?_document_of_processors context e ?_ (hp.own context e name _ hfields h ?_)
  · rintro rfl
    exact hname (by decide)
  · exact fun hmem => hname (by simp_all)

end

/-- What a record has of a name comes to the top. -/
lemma get?_overlay_of_get? {upper : Record Json} {name : String} {v : Json}
    (hupper : upper.names.Nodup) (h : upper.get? name = some v) (r : Record Json) :
    (r.overlay upper).get? name = some v := by
  induction upper generalizing r with
  | nil => cases h
  | cons field upper ih =>
    obtain ⟨n, u⟩ := field
    obtain ⟨hnew, hrest⟩ := List.nodup_cons.mp hupper
    rw [Record.get?, List.lookup_cons] at h
    rw [Record.overlay_cons]
    by_cases hname : name = n
    · obtain rfl := hname
      rw [beq_self_eq_true] at h
      have hnone : upper.reverse.lookup name = none := by
        rw [List.lookup_eq_none_iff]
        intro entry hentry
        have hmem : entry.1 ∈ Record.names upper := List.mem_map_of_mem (List.mem_reverse.mp hentry)
        simpa using (ne_of_mem_of_not_mem hmem hnew).symm
      rw [Record.get?_overlay, hnone, Option.none_or, Record.get?_set_self]
      exact h
    · rw [beq_eq_false_iff_ne.mpr hname] at h
      exact ih hrest h _

/-- The standard processors do what is documented. -/
lemma Processors.standard_documented : standard.Documented where
  event context e := by simp [standard, Record.get?_set]
  level context e := by simp [standard, Record.get?_set]
  logger context e := by simp [standard, Record.get?_set]
  own context e name v hfields h hname := by
    simp only [List.mem_cons, not_or] at hname
    simp [standard, Record.get?_set, hname, get?_overlay_of_get? hfields h]

/-! ### Levels -/

variable (log : Log)

/-- A log that begins with debugging has all events. -/
lemma write_debug (events : List Event) :
    (log.configure "DEBUG").1.write events = events.map (document log.processors log.context) := by
  have hrecords : ∀ e : Event, (log.configure "DEBUG").1.records e = true := by
    rintro ⟨domain, level, name, fields⟩
    cases level <;> rfl
  rw [write, List.filter_eq_self.mpr fun e _ => hrecords e]
  rfl

/-- A log that begins with warnings passes over what is only for debugging. -/
lemma write_warning {events : List Event} (h : ∀ e ∈ events, e.level = .debug) {last : Option Event}
    (hlast : ∀ e ∈ last, e.level = .warning) :
    (log.configure "WARNING").1.write (events ++ last.toList) =
      (last.map (document log.processors log.context)).toList := by
  have hevents : events.filter (log.configure "WARNING").1.records = [] := by
    rw [List.filter_eq_nil_iff]
    rintro ⟨domain, level, name, fields⟩ he
    obtain rfl : level = .debug := h _ he
    exact Bool.false_ne_true
  rw [write, List.filter_append, hevents, List.nil_append]
  cases last with
  | none => rfl
  | some e =>
    obtain ⟨domain, level, name, fields⟩ := e
    obtain rfl : level = .warning := hlast _ rfl
    rfl

end Log

/-! ### One spec -/

namespace Suite

/-- A document says that a spec has become a validator. -/
structure TellsParsed (spec : String) (v : Validator) (doc : Record Json) : Prop where
  logger : doc.get? "logger" = some (.text "flagspec.parser")
  level : doc.get? "level" = some (.text "debug")
  event : doc.get? "event" = some (.text "validator_spec_parsed")
  spec : ∃ shown, Log.Shown spec shown ∧ doc.get? "spec" = some (.text shown)
  validator : doc.get? "validator" = some (.text v.name)
  kind : doc.get? "kind" = some (.text v.kind)

/-- A document says that a spec has been refused with an error and for what reason. -/
structure TellsRefused (spec : String) (code : Code) (reason : String) (doc : Record Json) :
    Prop where
  logger : doc.get? "logger" = some (.text "flagspec.parser")
  level : doc.get? "level" = some (.text "warning")
  event : doc.get? "event" = some (.text "validator_spec_rejected")
  spec : ∃ shown, Log.Shown spec shown ∧ doc.get? "spec" = some (.text shown)
  code : doc.get? "code" = some (.text code.name)
  reason : ∃ shown, Log.Shown reason shown ∧ doc.get? "reason" = some (.text shown)

section

variable {p : Log.Processors} (hp : p.Documented) (context : Record Json) (spec : String)

include hp

lemma tellsParsed_document (v : Validator) :
    TellsParsed spec v (Log.document p context (Log.specParsed spec v)) := by
  have hfields : (Log.specParsed spec v).fields.names.Nodup := by
    show ["spec", "validator", "kind"].Nodup
    decide
  exact
    { logger := Log.get?_document_logger _ _ hp
      level := Log.get?_document_level _ _ hp
      event := Log.get?_document_event _ _ hp
      spec := ⟨_, Log.shown_shorten spec, Log.get?_document _ _ hp (by decide) hfields rfl⟩
      validator := Log.get?_document _ _ hp (by decide) hfields rfl
      kind := Log.get?_document _ _ hp (by decide) hfields rfl }

lemma tellsRefused_document (code : Code) (reason : String) :
    TellsRefused spec code reason
      (Log.document p context (Log.specRejected spec code reason)) := by
  have hfields : (Log.specRejected spec code reason).fields.names.Nodup := by
    show ["spec", "code", "reason"].Nodup
    decide
  exact
    { logger := Log.get?_document_logger _ _ hp
      level := Log.get?_document_level _ _ hp
      event := Log.get?_document_event _ _ hp
      spec := ⟨_, Log.shown_shorten spec, Log.get?_document _ _ hp (by decide) hfields rfl⟩
      code := Log.get?_document _ _ hp (by decide) hfields rfl
      reason := ⟨_, Log.shown_shorten reason, Log.get?_document _ _ hp (by decide) hfields rfl⟩ }

end

/-! ### Lists of specs -/

/-- What is told of a list of specs: something of each spec that becomes a validator, in their
order, up to the first spec that is refused, and then something of this one. Nothing is told of the
specs behind it. -/
inductive Told {α : Type} (parsed : String → Validator → α → Prop)
    (refused : String → Code → String → α → Prop) (cat : Catalog) (specs : List String) :
    List α → Option α → Prop
  /-- All specs become validators. -/
  | all {as : List α} :
      List.Forall₂ (fun spec a => ∃ v, build spec 0 = .ok v ∧ parsed spec v a) specs as →
      Told parsed refused cat specs as none
  /-- A spec is refused. -/
  | upTo {before after : List String} {spec reason : String} {e : SpecError} {as : List α} {a : α} :
      specs = before ++ spec :: after →
      List.Forall₂ (fun spec a => ∃ v, build spec 0 = .ok v ∧ parsed spec v a) before as →
      build spec 0 = .error (.spec e) → e.text cat = .ok reason →
      refused spec e.root.code reason a → Told parsed refused cat specs as (some a)

namespace Told

variable {α β : Type} {parsed : String → Validator → α → Prop}
  {refused : String → Code → String → α → Prop} {cat : Catalog} {specs : List String}

lemma cons {spec : String} {v : Validator} {a : α} {as : List α} {last : Option α}
    (hbuild : build spec 0 = .ok v) (hparsed : parsed spec v a)
    (h : Told parsed refused cat specs as last) :
    Told parsed refused cat (spec :: specs) (a :: as) last := by
  cases h with
  | all has => exact .all (.cons ⟨v, hbuild, hparsed⟩ has)
  | upTo hspecs has hrefuse hreason hlast =>
    have hcons := congrArg (spec :: ·) hspecs
    exact .upTo hcons (.cons ⟨v, hbuild, hparsed⟩ has) hrefuse hreason hlast

/-- What is told may be told in another way. -/
lemma map {parsed' : String → Validator → β → Prop} {refused' : String → Code → String → β → Prop}
    (f : α → β) (hparsed : ∀ spec v a, parsed spec v a → parsed' spec v (f a))
    (hrefused : ∀ spec code reason a, refused spec code reason a → refused' spec code reason (f a))
    {as : List α} {last : Option α} (h : Told parsed refused cat specs as last) :
    Told parsed' refused' cat specs (as.map f) (last.map f) := by
  have hall {specs : List String}
      (has : List.Forall₂ (fun spec a => ∃ v, build spec 0 = .ok v ∧ parsed spec v a) specs as) :
      List.Forall₂ (fun spec b => ∃ v, build spec 0 = .ok v ∧ parsed' spec v b) specs
        (as.map f) := by
    rw [List.forall₂_map_right_iff]
    exact has.imp fun spec a ⟨v, hbuild, ha⟩ => ⟨v, hbuild, hparsed spec v a ha⟩
  cases h with
  | all has => exact .all (hall has)
  | upTo hspecs has hbuild hreason hlast =>
    exact .upTo hspecs (hall has) hbuild hreason (hrefused _ _ _ _ hlast)

lemma exists_parsed {as : List α} {last : Option α} (h : Told parsed refused cat specs as last)
    {a : α} (ha : a ∈ as) : ∃ spec v, parsed spec v a := by
  cases h with
  | all has | upTo _ has _ _ _ =>
    obtain ⟨spec, -, v, -, hparsed⟩ := Validator.exists_of_forall₂ has ha
    exact ⟨spec, v, hparsed⟩

lemma exists_refused {as : List α} {a : α} (h : Told parsed refused cat specs as (some a)) :
    ∃ spec code reason, refused spec code reason a := by
  cases h with
  | upTo _ _ _ _ hlast => exact ⟨_, _, _, hlast⟩

end Told

variable {cat : Catalog} {specs : List String}

/-- A spec that becomes a validator leaves one event, and the rest of the list is read. -/
lemma parseAll_cons_of_ok {spec : String} {v : Validator} (hblank : Text.isBlankText spec = false)
    (hbuild : build spec 0 = .ok v) (rest : List String) :
    parseAll cat (spec :: rest) =
      ⟨Log.specParsed spec v :: (parseAll cat rest).trace,
        (v :: ·) <$> (parseAll cat rest).result⟩ := by
  rw [parseAll, hblank, if_neg (by simp), parse, hbuild]
  rcases h : parseAll cat rest with ⟨trace, e | vs⟩
  · rfl
  · simp [blaming]

/-- A spec that is refused leaves one event, and the rest of the list is not read. -/
lemma trace_parseAll_cons_of_refused {spec reason : String} {e : SpecError}
    (hblank : Text.isBlankText spec = false) (hbuild : build spec 0 = .error (.spec e))
    (hreason : e.text cat = .ok reason) (rest : List String) :
    (parseAll cat (spec :: rest)).trace = [Log.specRejected spec e.root.code reason] := by
  rw [parseAll, hblank, if_neg (by simp), parse_of_refused hbuild hreason]
  rfl

/-- The events of a list are those of its specs that are not blank. -/
lemma told_trace (hfault : ∀ f, (parseAll cat specs).result ≠ .error (.fault f)) :
    ∃ events last, Told (fun spec v e => e = Log.specParsed spec v)
        (fun spec code reason e => e = Log.specRejected spec code reason) cat
        (specs.filter fun s => !Text.isBlankText s) events last ∧
      (parseAll cat specs).trace = events ++ last.toList := by
  induction specs with
  | nil => exact ⟨[], none, .all .nil, rfl⟩
  | cons spec rest ih =>
    cases hblank : Text.isBlankText spec with
    | true =>
      rw [parseAll, hblank, if_pos rfl] at hfault ⊢
      rw [List.filter_cons_of_neg (by simp [hblank])]
      exact ih hfault
    | false =>
      rw [List.filter_cons_of_pos (by simp [hblank])]
      rcases hbuild : build spec 0 with (e | f) | v
      · -- a catalog that cannot word the reason lets the list fail, so it has worded it
        cases hreason : e.text cat with
        | error f =>
          rw [parseAll, hblank, if_neg (by simp), parse, hbuild] at hfault
          simp [blaming, hreason, Traced.of] at hfault
        | ok reason =>
          rw [trace_parseAll_cons_of_refused hblank hbuild hreason]
          exact ⟨[], _, .upTo (List.nil_append _).symm .nil hbuild hreason rfl, rfl⟩
      · rw [parseAll, hblank, if_neg (by simp), parse, hbuild] at hfault
        simp [blaming, Traced.of] at hfault
      · rw [parseAll_cons_of_ok hblank hbuild] at hfault ⊢
        obtain ⟨events, last, htold, htrace⟩ := ih fun f h => hfault f (by simp [h])
        exact ⟨_, last, htold.cons hbuild rfl, congrArg (Log.specParsed spec v :: ·) htrace⟩

/-- English is there at any time, so that looking for it leaves no event. -/
lemma exists_lookUp_english (requests : List Catalog.Request) :
    ∃ cat, (Catalog.Table.run .initial requests).lookUp "en" = (cat, []) := by
  have hkey : Catalog.Table.key "en" = Catalog.Table.key Catalog.english.locale := rfl
  rw [Catalog.Table.run_eq_registered]
  generalize requests.filterMap Catalog.Request.catalog? = cats
  rcases hlook : (Catalog.Table.registered cats).lookUp "en" with ⟨cat, events⟩
  refine ⟨cat, ?_⟩
  cases Catalog.Table.lookUp_registered_iff.mp hlook with
  | exact _ _ => rfl
  | language _ _ _ _ => rfl
  | missing hen hnone _ _ =>
    exfalso
    obtain rfl := Catalog.isKey_iff.mp hen
    simp only [Catalog.isLast_iff] at hnone
    have hfound := Option.eq_none_iff_forall_ne_some.mpr hnone
    rw [List.find?_eq_none] at hfound
    exact hfound .english (by simp) (by simp [hkey])

/-- Of a list of specs a log has one document for every spec that is not blank, in their order, up
to the first that is refused, and this one tells the code of the error that the spec itself is
refused with. A log that begins with warnings has the document of the refused spec and no other.
English, which is never looked for in vain, leaves no event of its own. -/
theorem told_parseAll (requests : List Catalog.Request) {log : Log}
    (hlog : log.processors.Documented) :
    ∃ cat, (Catalog.Table.run .initial requests).lookUp "en" = (cat, []) ∧
      ∀ specs, (∀ f, (parseAll cat specs).result ≠ .error (.fault f)) →
        ∃ docs last, Told TellsParsed TellsRefused cat
            (specs.filter fun s => !Text.isBlankText s) docs last ∧
          (log.configure "DEBUG").1.write (parseAll cat specs).trace = docs ++ last.toList ∧
          (log.configure "WARNING").1.write (parseAll cat specs).trace = last.toList := by
  obtain ⟨cat, hcat⟩ := exists_lookUp_english requests
  refine ⟨cat, hcat, ?_⟩
  intro specs hfault
  obtain ⟨events, last, htold, htrace⟩ := told_trace hfault
  refine ⟨events.map (Log.document log.processors log.context),
    last.map (Log.document log.processors log.context), ?_, ?_, ?_⟩
  · refine htold.map _ ?_ ?_
    · rintro spec v _ rfl
      exact tellsParsed_document hlog log.context spec v
    · rintro spec code reason _ rfl
      exact tellsRefused_document hlog log.context spec code reason
  · rw [htrace, Log.write_debug, List.map_append]
    cases last <;> rfl
  · rw [htrace]
    refine log.write_warning ?_ ?_
    · intro e he
      obtain ⟨spec, v, rfl⟩ := htold.exists_parsed he
      rfl
    · rintro e rfl
      obtain ⟨spec, code, reason, rfl⟩ := htold.exists_refused
      rfl

/-- A list with a blank spec, and one that nobody reads behind a spec that is refused. -/
theorem told_parseAll_minlength :
    (∀ f, (parseAll .english [" ", "email", "minlength(x)", "()"]).result ≠
      .error (.fault f)) ∧
    ∃ parsed rejected reason,
      (Log.configure { processors := .standard } "DEBUG").1.write
          (parseAll .english [" ", "email", "minlength(x)", "()"]).trace = [parsed, rejected] ∧
      (Log.configure { processors := .standard } "WARNING").1.write
          (parseAll .english [" ", "email", "minlength(x)", "()"]).trace = [rejected] ∧
      TellsParsed "email" (.leaf .email) parsed ∧
      TellsRefused "minlength(x)" .argumentMustBeInteger reason rejected := by
  have hemail : build "email" 0 = .ok (.leaf .email) := rfl
  have hlength : build "minlength(x)" 0 = .error (.spec (.notAnInteger "minlength")) := rfl
  have hnameless : build "()" 0 = .error (.spec (.malformed "()" .missingName none)) := rfl
  have hfilter : [" ", "email", "minlength(x)", "()"].filter (fun s => !Text.isBlankText s) =
      ["email", "minlength(x)", "()"] := rfl
  have hfault : ∀ f, (parseAll .english [" ", "email", "minlength(x)", "()"]).result ≠
      .error (.fault f) := by
    intro f h
    rw [parseAll_result, hfilter, Build.mapM_error_iff] at h
    obtain ⟨before, spec, after, hspecs, -, hspec⟩ := h
    have hmem : spec ∈ ["email", "minlength(x)", "()"] := by simp [hspecs]
    rw [blamed_fault_iff] at hspec
    simp only [List.mem_cons, List.not_mem_nil, or_false] at hmem
    rcases hmem with rfl | rfl | rfl <;> simp [*] at hspec
  refine ⟨hfault, ?_⟩
  let log : Log := { processors := .standard }
  have hlog : log.processors.Documented := Log.Processors.standard_documented
  obtain ⟨cat, hcat, htold⟩ := told_parseAll [] hlog
  obtain rfl : .english = cat := by
    have hkey : Catalog.Table.key "en" = "en" := by decide +kernel
    rw [Catalog.Table.lookUp, Catalog.Table.find, Catalog.Table.find?, hkey] at hcat
    exact congrArg Prod.fst hcat
  obtain ⟨docs, last, h, hdebug, hwarning⟩ := htold [" ", "email", "minlength(x)", "()"] hfault
  rw [hdebug, hwarning]
  rw [hfilter] at h
  cases h with
  | all hdocs =>
    obtain _ | ⟨-, _ | ⟨⟨v, hv, -⟩, -⟩⟩ := hdocs
    simp [hlength] at hv
  | @upTo before after spec reason e docs doc hspecs hdocs hbuild hreason hdoc =>
    rcases before with _ | ⟨first, _ | ⟨second, before⟩⟩
    · obtain ⟨rfl, -⟩ := List.cons.inj hspecs
      simp [hemail] at hbuild
    · obtain ⟨rfl, htail⟩ := List.cons.inj hspecs
      obtain ⟨rfl, -⟩ := List.cons.inj htail
      obtain _ | ⟨⟨v, hv, hparsed⟩, _ | _⟩ := hdocs
      obtain rfl : Validator.leaf .email = v := by simpa [hemail] using hv
      obtain rfl : SpecError.notAnInteger "minlength" = e := by simpa [hlength] using hbuild
      exact ⟨_, doc, reason, rfl, rfl, hparsed, hdoc⟩
    · obtain ⟨rfl, htail⟩ := List.cons.inj hspecs
      obtain ⟨rfl, -⟩ := List.cons.inj htail
      obtain _ | ⟨-, _ | ⟨⟨v, hv, -⟩, -⟩⟩ := hdocs
      simp [hlength] at hv

end Suite

end ValueSpec
