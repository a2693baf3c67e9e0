import TableSchema.Report
import TableSchema.Proofs.LongIntegers
import TableSchema.Proofs.Lookup

/-!
# How far an analysis got

An analysis goes through its items one after the other: the sources, the definitions, the tables, the enumerations, and
last the summary.  `items` lists them, whether the analysis gets there or not, `Item.outcome` is how one of them comes
out by itself, and `fullTrace` has a record for each.

* (runs) `Run.GoesThrough` says of a run that it notes the records of its items up to the first that fails, and ends
  there.  One run after another goes through the items of both (`GoesThrough.bind`), a loop goes through those of its
  rounds (`GoesThrough.each`), also if a round depends on the ones before it (`GoesThrough.fold`);
* (stages) `parseSources_goesThrough`, `catalogOf_goesThrough` and `schemaOf_goesThrough` are the parts of the analysis.

Main statement: an analysis that succeeds leaves the full trace, and one that fails leaves the records of the items
before the failing one and what is told of the failure (`run_events`).
-/

namespace TableSchema

open Syntax

/-- How many enumerators an enumeration is declared with.  A single placeholder declares none. -/
def Syntax.EnumerationDeclaration.enumeratorCount (e : EnumerationDeclaration) : Nat :=
  if e.values.map (·.name.text) = [placeholder] then 0 else e.values.length

theorem length_enumerators {e : EnumerationDeclaration} {enumeration : Enumeration}
    (h : resolveEnumeration e = .ok enumeration) : enumeration.enumerators.length = e.enumeratorCount := by
  have hsingle :
      e.values.map EnumeratorDeclaration.givenName = [none] ↔ e.values.map (·.name.text) = [placeholder] := by
    match e.values with
    | [] => simp
    | [value] => simp [EnumeratorDeclaration.givenName, nameOf]
    | _ :: _ :: _ => simp
  rw [enumerators_of_resolveEnumeration h, EnumerationDeclaration.enumeratorCount]
  simp only [hsingle]
  split <;> simp

namespace Analysis

/-! ### Runs through items -/

namespace Run

variable {ι ε failure α β σ : Type} {outcome : ι → Except failure Unit} {record : ι → ε}

/-- A run that notes a record for every item up to the first that fails, and ends there. -/
structure GoesThrough (outcome : ι → Except failure Unit) (record : ι → ε) (r : Run ε failure α)
    (items : List ι) : Prop where
  ok : ∀ a, r.outcome = .ok a → (∀ i ∈ items, outcome i = .ok ()) ∧ r.events = items.map record
  error : ∀ e, r.outcome = .error e →
    ∃ earlier i later, items = earlier ++ i :: later ∧ (∀ x ∈ earlier, outcome x = .ok ()) ∧ outcome i = .error e ∧
      r.events = earlier.map record

namespace GoesThrough

theorem pure (a : α) : GoesThrough outcome record (pure a : Run ε failure α) [] where
  ok _ _ := ⟨by simp, rfl⟩
  error _ h := by cases h

/-- A single step goes through the item that it is the step of. -/
theorem step {o : Except failure α} {event : α → ε} {i : ι} (houtcome : outcome i = (fun _ => ()) <$> o)
    (hrecord : ∀ a, o = .ok a → event a = record i) : GoesThrough outcome record (Run.step o event) [i] := by
  cases o with
  | ok a => exact ⟨fun _ _ => ⟨by simpa using houtcome, by simp [Run.step, hrecord a rfl]⟩, fun e h => by cases h⟩
  | error e =>
    refine ⟨fun a h => (by cases h), fun e' h => ?_⟩
    cases h
    exact ⟨[], i, [], rfl, by simp, houtcome, rfl⟩

/-- A note goes through an item that cannot fail. -/
theorem note {event : ε} {i : ι} (houtcome : outcome i = .ok ()) (hrecord : event = record i) :
    GoesThrough outcome record (Run.note event) [i] where
  ok _ _ := ⟨by simpa using houtcome, by rw [hrecord]; rfl⟩
  error _ h := by cases h

theorem bind {r : Run ε failure α} {next : α → Run ε failure β} {items more : List ι}
    (h : GoesThrough outcome record r items)
    (hn : ∀ a, r.outcome = .ok a → GoesThrough outcome record (next a) more) :
    GoesThrough outcome record (r >>= next) (items ++ more) := by
  cases hr : r.outcome with
  | error e =>
    have houtcome : (r >>= next).outcome = .error e := by rw [outcome_bind, hr]; rfl
    refine ⟨fun a ha => (by rw [houtcome] at ha; cases ha), fun e' he => ?_⟩
    rw [houtcome] at he
    cases he
    obtain ⟨earlier, i, later, heq, hearlier, hi, hevents⟩ := h.error e hr
    refine ⟨earlier, i, later ++ more, ?_, hearlier, hi, ?_⟩
    · rw [heq, List.append_assoc, List.cons_append]
    · rw [events_bind_of_error next hr, hevents]
  | ok a =>
    obtain ⟨hitems, hevents⟩ := h.ok a hr
    have houtcome : (r >>= next).outcome = (next a).outcome := by rw [outcome_bind, hr]; rfl
    constructor
    · intro b hb
      rw [houtcome] at hb
      obtain ⟨hmore, hmoreEvents⟩ := (hn a hr).ok b hb
      refine ⟨fun i hi => (List.mem_append.1 hi).elim (hitems i) (hmore i), ?_⟩
      rw [events_bind_of_ok next hr, hevents, hmoreEvents, List.map_append]
    · intro e he
      rw [houtcome] at he
      obtain ⟨earlier, i, later, heq, hearlier, hi, hmoreEvents⟩ := (hn a hr).error e he
      refine ⟨items ++ earlier, i, later, ?_, ?_, hi, ?_⟩
      · rw [heq, List.append_assoc]
      · exact fun x hx => (List.mem_append.1 hx).elim (hitems x) (hearlier x)
      · rw [events_bind_of_ok next hr, hevents, hmoreEvents, List.map_append]

theorem bind_pure {r : Run ε failure α} {items : List ι} (h : GoesThrough outcome record r items) (g : α → β) :
    GoesThrough outcome record (r >>= fun a => (Pure.pure (g a) : Run ε failure β)) items := by
  rw [← List.append_nil items]
  exact h.bind fun a _ => .pure (g a)

/-- A loop whose rounds do not depend on each other. -/
theorem each {f : α → Except failure β} {event : α → β → ε} {item : α → ι} {as : List α}
    (h : ∀ a ∈ as, GoesThrough outcome record (Run.step (f a) (event a)) [item a]) :
    GoesThrough outcome record (Run.each f event as) (as.map item) := by
  induction as with
  | nil => exact .pure []
  | cons a rest ih =>
    rw [Run.each, List.map_cons, ← List.singleton_append]
    refine (h a List.mem_cons_self).bind fun b _ => ?_
    exact (ih fun x hx => h x (List.mem_cons_of_mem _ hx)).bind_pure (b :: ·)

/-- A loop whose state sums up the rounds before the current one. -/
theorem fold {f : σ → α → Except failure σ} {event : α → ε} (state : List α → σ) (item : List α → α → ι)
    (h : ∀ before a, GoesThrough outcome record (Run.step (f (state before) a) fun _ => event a) [item before a])
    (hs : ∀ before a s, f (state before) a = .ok s → s = state (before ++ [a])) (before as : List α) :
    GoesThrough outcome record (Run.fold f event (state before) as)
      (inOrder (fun before a => [item before a]) before as) := by
  induction as generalizing before with
  | nil => exact .pure _
  | cons a rest ih =>
    rw [Run.fold, inOrder]
    refine (h before a).bind fun s hok => ?_
    rw [outcome_step] at hok
    rw [hs before a s hok]
    exact ih (before ++ [a])

end GoesThrough

end Run

/-! ### The items of an analysis -/

/-- What an analysis goes through: a source, a definition behind others, a table and an enumeration of a catalog, and
the summary. -/
inductive Item
  | source (s : Source)
  | definition (before : List (Sourced Definition)) (d : Sourced Definition)
  | table (catalog : Catalog) (t : Sourced TableDeclaration)
  | enumeration (e : Sourced EnumerationDeclaration)
  | summary (tables enumerations : Nat)

/-- Whether an item goes through, and how it fails otherwise. -/
def Item.outcome : Item → Except Failure Unit
  | source s => (fun _ => ()) <$> parseSource s
  | definition before d => (fun _ => ()) <$> registerOne (declared before) d
  | table catalog t => (fun _ => ()) <$> tableOf catalog t
  | enumeration e => (fun _ => ()) <$> enumerationOf e
  | summary _ _ => .ok ()

/-- The record of an item that went through. -/
def Item.record : Item → Event
  | source s => .parsed s.name
  | definition _ d => .registered d.value
  | table _ t => .resolvedTable t.value.name.text t.value.fields.length
  | enumeration e => .resolvedEnumeration e.value.name.text e.value.enumeratorCount
  | summary tables enumerations => .analyzed tables enumerations

/-- The definitions of the sources that can be parsed. -/
def definitionsIn (sources : List Source) : List (Sourced Definition) :=
  (sources.filterMap (·.document?)).flatMap definitionsOf

/-- The items behind the sources. -/
def itemsOf (definitions : List (Sourced Definition)) : List Item :=
  let catalog := declared definitions
  inOrder (fun before d => [Item.definition before d]) [] definitions
    ++ ((catalog.tables.map (.table catalog) ++ catalog.enumerations.map .enumeration)
      ++ [.summary catalog.tables.length catalog.enumerations.length])

/-- Everything that an analysis of sources goes through if nothing fails, in order. -/
def items (sources : List Source) : List Item :=
  sources.map .source ++ itemsOf (definitionsIn sources)

/-- A record for every source, every definition, every table with its number of fields, and every enumeration with its
number of enumerators, and the summary. -/
def fullTrace (sources : List Source) : List Event :=
  let catalog := declared (definitionsIn sources)
  sources.map (fun s => .parsed s.name)
    ++ (definitionsIn sources).map (fun d => .registered d.value)
    ++ catalog.tables.map (fun t => .resolvedTable t.value.name.text t.value.fields.length)
    ++ catalog.enumerations.map (fun e => .resolvedEnumeration e.value.name.text e.value.enumeratorCount)
    ++ [.analyzed catalog.tables.length catalog.enumerations.length]

theorem map_inOrder_singleton {α β γ : Type} (f : List α → α → β) (g : β → γ) (h : α → γ)
    (hg : ∀ before a, g (f before a) = h a) (before as : List α) :
    (inOrder (fun before a => [f before a]) before as).map g = as.map h := by
  induction as generalizing before with
  | nil => rfl
  | cons a rest ih => rw [inOrder, List.map_append, ih, List.map_singleton, hg, List.map_cons, List.singleton_append]

/-- The full trace has the records of all items. -/
theorem map_record_items (sources : List Source) : (items sources).map Item.record = fullTrace sources := by
  have hdefinitions := map_inOrder_singleton Item.definition Item.record
    (fun d => Event.registered d.value) (fun _ _ => rfl) [] (definitionsIn sources)
  simp only [items, itemsOf, fullTrace, List.map_append, List.map_map, hdefinitions, List.append_assoc]
  rfl

/-! ### The stages of an analysis -/

/-- A run that goes through items of the analysis. -/
abbrev GoesThrough {α : Type} (r : Traced α) (items : List Item) : Prop :=
  r.GoesThrough Item.outcome Item.record items

theorem parseSources_goesThrough (sources : List Source) :
    GoesThrough (parseSources sources) (sources.map .source) :=
  .each fun _ _ => .step rfl fun _ _ => rfl

theorem catalogOf_goesThrough (documents : List Document) :
    GoesThrough (catalogOf documents)
      (inOrder (fun before d => [Item.definition before d]) [] (documents.flatMap definitionsOf)) := by
  have hnext : ∀ before d catalog, registerOne (declared before) d = .ok catalog → catalog = declared (before ++ [d]) :=
    fun before d catalog h => register_declared (mapError_eq_ok_iff.1 h)
  exact Run.GoesThrough.fold declared Item.definition (fun _ _ => .step rfl fun _ _ => rfl) hnext []
    (documents.flatMap definitionsOf)

theorem schemaOf_goesThrough (catalog : Catalog) :
    GoesThrough (schemaOf catalog) (catalog.tables.map (.table catalog) ++ catalog.enumerations.map .enumeration) := by
  refine Run.GoesThrough.bind (.each fun t _ => .step rfl fun table htable => ?_) fun tables _ => ?_
  · obtain ⟨hname, -, hcolumns⟩ := resolveTable_eq_ok_iff.1 (mapError_eq_ok_iff.1 htable)
    rw [hname, ← (resolveFields_forall₂ hcolumns).length_eq]
    rfl
  · refine Run.GoesThrough.bind_pure ?_ (Schema.mk tables)
    refine .each fun e _ => .step rfl fun enumeration henumeration => ?_
    have hresolve := mapError_eq_ok_iff.1 henumeration
    rw [name_of_resolveEnumeration hresolve, length_enumerators hresolve]
    rfl

theorem outcome_catalogOf_eq_ok {documents : List Document} {catalog : Catalog}
    (h : (catalogOf documents).outcome = .ok catalog) : catalog = declared (documents.flatMap definitionsOf) := by
  rw [catalogOf, Run.outcome_fold] at h
  exact (registerOne_foldlM_reports _).2 catalog h

theorem analyzeDocuments_goesThrough (documents : List Document) :
    let catalog := declared (documents.flatMap definitionsOf)
    GoesThrough (analyzeDocuments documents)
      (inOrder (fun before d => [Item.definition before d]) [] (documents.flatMap definitionsOf)
        ++ (catalog.tables.map (.table catalog) ++ catalog.enumerations.map .enumeration)) := by
  intro catalog
  refine (catalogOf_goesThrough documents).bind fun c hc => ?_
  rw [outcome_catalogOf_eq_ok hc]
  exact schemaOf_goesThrough catalog

/-- A schema has as many tables and enumerations as are declared. -/
theorem length_of_outcome_analyzeDocuments {documents : List Document} {schema : Schema}
    (h : (analyzeDocuments documents).outcome = .ok schema) :
    schema.tables.length = (declared (documents.flatMap definitionsOf)).tables.length ∧
      schema.enumerations.length = (declared (documents.flatMap definitionsOf)).enumerations.length := by
  rw [analyzeDocuments, Run.outcome_bind] at h
  obtain ⟨catalog, hcatalog, hschema⟩ := bind_eq_ok_iff.1 h
  rw [outcome_catalogOf_eq_ok hcatalog] at hschema
  obtain ⟨htables, henumerations⟩ := outcome_schemaOf_eq_ok_iff.1 hschema
  exact ⟨htables.length_eq.symm, henumerations.length_eq.symm⟩

theorem analyzeSources_goesThrough (sources : List Source) :
    GoesThrough (analyzeSources sources) (items sources) := by
  refine (parseSources_goesThrough sources).bind fun documents hdocuments => ?_
  have hdefinitions : definitionsIn sources = documents.flatMap definitionsOf := by
    rw [parseSources, Run.outcome_each] at hdocuments
    rw [definitionsIn, mapM_parseSource hdocuments]
  rw [hdefinitions, itemsOf, ← List.append_assoc]
  -- The summary comes behind everything that can fail.
  refine (analyzeDocuments_goesThrough documents).bind fun schema hschema => ?_
  obtain ⟨htables, henumerations⟩ := length_of_outcome_analyzeDocuments hschema
  refine Run.GoesThrough.bind_pure ?_ fun _ => schema
  exact .note rfl (by rw [htables, henumerations]; rfl)

/-! ### The trace of an analysis -/

/-- The end of the trace of a failure: the message of its report, if it has one. -/
theorem failureEvents_eq (failure : Failure) :
    failureEvents failure = (failure.report?.map fun r => .failed r.finding.message).toList := by
  cases failure <;> rfl

/-- The record of an item that went through is not the end of a failure. -/
theorem Item.record_ne_failed (i : Item) (message : String) : i.record ≠ .failed message := by
  cases i with
  | definition before d =>
    obtain ⟨source, definition⟩ := d
    cases definition <;> exact nofun
  | _ => exact nofun

end Analysis

open Analysis

/-- An analysis that succeeds leaves the full trace.  One that fails leaves the records of the items before the failing
one, all of which go through, and then the message of its report.  A failure without a report leaves nothing more.  So
no record is left of the failing item or of any behind it. -/
theorem run_events (sources : List Source) :
    (∀ schema, analyze sources = .ok schema → (Analysis.run sources).events = fullTrace sources) ∧
      (∀ failure, analyze sources = .error failure →
        ∃ earlier item later, items sources = earlier ++ item :: later ∧
          (∀ i ∈ earlier, i.outcome = .ok ()) ∧ item.outcome = .error failure ∧
          (∃ missing, missing ≠ [] ∧ fullTrace sources = earlier.map Item.record ++ missing) ∧
          (Analysis.run sources).events =
            earlier.map Item.record ++ (failure.report?.map fun r => .failed r.finding.message).toList) ∧
      ∀ e enumeration, resolveEnumeration e = .ok enumeration →
        e.enumeratorCount = enumeration.enumerators.length := by
  have hgoes := analyzeSources_goesThrough sources
  refine ⟨fun schema h => ?_, fun failure h => ?_, fun e enumeration h => (length_enumerators h).symm⟩
  · have houtcome : (analyzeSources sources).outcome = .ok schema := by rwa [outcome_analyzeSources]
    obtain ⟨-, hevents⟩ := hgoes.ok schema houtcome
    rw [Analysis.run, houtcome]
    exact hevents.trans (map_record_items sources)
  · have houtcome : (analyzeSources sources).outcome = .error failure := by rwa [outcome_analyzeSources]
    obtain ⟨earlier, item, later, heq, hearlier, hitem, hevents⟩ := hgoes.error failure houtcome
    refine ⟨earlier, item, later, heq, hearlier, hitem, ⟨(item :: later).map Item.record, by simp, ?_⟩, ?_⟩
    · rw [← map_record_items, heq, List.map_append]
    · rw [Analysis.run, houtcome, ← failureEvents_eq]
      exact congrArg (· ++ _) hevents

/-- Where an analysis breaks off at an integer, it leaves no record of a failure. -/
theorem failed_not_mem_events_onesSource {count : Nat} (h : Text.maxDigits < count) (message : String) :
    .failed message ∉ (Analysis.run [onesSource count]).events := by
  have houtcome : (analyzeSources [onesSource count]).outcome = .error (.integerTooLong count) := by
    rw [outcome_analyzeSources]
    exact analyze_onesSource h
  obtain ⟨earlier, _, _, _, _, _, hevents⟩ := (analyzeSources_goesThrough _).error _ houtcome
  rw [Analysis.run, houtcome]
  dsimp only [failureEvents]
  rw [List.append_nil, hevents, List.mem_map]
  rintro ⟨i, -, hrecord⟩
  exact i.record_ne_failed message hrecord

/-- An analysis that fails for another reason than a reference without a table need not leave a record of the failure:
there is an integer that is too long. -/
theorem not_failures_noted :
    ¬ ∀ sources failure, analyze sources = .error failure →
      (∃ field, failure = .refWithoutTable field) ∨
        ∃ message, Event.failed message ∈ (Analysis.run sources).events := by
  intro h
  have hlong : Text.maxDigits < Text.maxDigits + 1 := Nat.lt_succ_self _
  rcases h _ _ (analyze_onesSource hlong) with ⟨field, hfield⟩ | ⟨message, hmem⟩
  · cases hfield
  · exact failed_not_mem_events_onesSource hlong message hmem

/-- An enumeration that fails behind a table that resolves, and a reference without a table, which leaves no trace. -/
example :
    (Analysis.run [.numbered 1 "enum E type A \x7b x: [A] _: E \x7d"]).events =
        [.parsed "document 1", .registeredEnumeration "E", .registeredTable "A", .resolvedTable "A" 2,
          .failed "`indexing` directive is required for enums."] ∧
      (Analysis.run [.numbered 1 "type A type B \x7b x: i32 @ref(column: \"x\") \x7d type C"]).events =
        [.parsed "document 1", .registeredTable "A", .registeredTable "B", .registeredTable "C",
          .resolvedTable "A" 0] := by
  decide +kernel

end TableSchema
