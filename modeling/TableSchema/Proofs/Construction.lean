import Mathlib.Data.List.Infix
import TableSchema.Proofs.WellFormed

/-!
# Catalogs under construction

A catalog grows call by call: a document is added, or the catalog is handed out as it is.  An addition that fails has
registered what stands before the failing definition, and the next calls go on from there.

* (one document) `kept` are the definitions of a document before the first that fails, and `registerAll_declared` says
  that adding the document registers these and tells of that one;
* (whole runs) `catalog_run` says which definitions a catalog consists of after any calls, and `answer_run` that no call
  changes what was told before it;
* (time) `catalogAt` is the catalog after some calls and some definitions of the next call.  An earlier catalog is a
  beginning of a later one (`catalogAt_isPrefix`).

Main statement: what the calls of any run have told and left behind (`run_accounts`).
-/

namespace TableSchema

open Syntax Analysis

/-! ### Calls -/

/-- A call on a catalog under construction. -/
inductive Call
  | add (d : Document)
  | build

/-- What a call tells: the problem that ended an addition, if there was one, or the catalog. -/
inductive Answer
  | added (refused : Option (Sourced Problem))
  | built (c : Catalog)
deriving DecidableEq

/-- The catalog that a call leaves behind. -/
def Catalog.after (c : Catalog) : Call → Catalog
  | .add d => (c.add d).1
  | .build => c

/-- What a call tells. -/
def Catalog.answer (c : Catalog) : Call → Answer
  | .add d => .added (c.add d).2
  | .build => .built c

/-- A catalog under construction, and what the calls on it have told. -/
structure Construction where
  catalog : Catalog
  answers : List Answer
deriving DecidableEq

namespace Construction

/-- The construction after one more call. -/
def call (c : Construction) (x : Call) : Construction :=
  ⟨c.catalog.after x, c.answers ++ [c.catalog.answer x]⟩

/-- The construction after some calls. -/
def run (calls : List Call) : Construction :=
  calls.foldl call ⟨.empty, []⟩

end Construction

/-- The document that a call adds. -/
def Call.document? : Call → Option Document
  | add d => some d
  | build => none

/-- The documents that calls add. -/
def addedDocuments (calls : List Call) : List Document :=
  calls.filterMap Call.document?

/-- The catalog after `i` calls and, if the next call adds a document, `n` definitions of it. -/
def catalogAt (calls : List Call) (i n : Nat) : Catalog :=
  let c := (Construction.run (calls.take i)).catalog
  match calls[i]? with
  | some (.add d) => (c.registerAll ((definitionsOf d).take n)).1
  | _ => c

/-! ### Definitions that are kept -/

/-- The definitions before the first that fails behind `before` and those in front of it. -/
def kept (before : List (Sourced Definition)) : List (Sourced Definition) → List (Sourced Definition)
  | [] => []
  | d :: rest => if definitionViolations before d = [] then d :: kept (before ++ [d]) rest else []

/-- The definitions that are kept of documents. -/
def keptOf (documents : List Document) : List (Sourced Definition) :=
  documents.foldl (fun before d => before ++ kept before (definitionsOf d)) []

theorem keptOf_append_singleton (documents : List Document) (d : Document) :
    keptOf (documents ++ [d]) = keptOf documents ++ kept (keptOf documents) (definitionsOf d) := by
  simp [keptOf, List.foldl_append]

/-- What is kept of definitions is kept of more of them. -/
theorem kept_isPrefix_of_isPrefix (before : List (Sourced Definition)) {definitions more : List (Sourced Definition)}
    (h : definitions <+: more) : kept before definitions <+: kept before more := by
  obtain ⟨rest, rfl⟩ := h
  induction definitions generalizing before with
  | nil => exact List.nil_prefix
  | cons d definitions ih =>
    rw [List.cons_append, kept, kept]
    split
    · exact (List.prefix_cons_inj d).2 (ih _)
    · exact List.nil_prefix

theorem keptOf_isPrefix_of_isPrefix {documents more : List Document} (h : documents <+: more) :
    keptOf documents <+: keptOf more := by
  obtain ⟨rest, rfl⟩ := h
  induction rest using List.reverseRecOn with
  | nil => rw [List.append_nil]
  | append_singleton rest d ih =>
    rw [← List.append_assoc, keptOf_append_singleton]
    exact ih.trans (List.prefix_append _ _)

theorem inOrder_kept (before definitions : List (Sourced Definition)) :
    inOrder (fun before d => (definitionViolations before d).map (Failure.problem d.source)) before
      (kept before definitions) = [] := by
  induction definitions generalizing before with
  | nil => rfl
  | cons d rest ih =>
    rw [kept]
    split
    · rename_i hnone
      rw [inOrder, hnone, ih, List.map_nil, List.append_nil]
    · rfl

/-- Nothing is wrong with what is kept of documents. -/
theorem inOrder_keptOf (documents : List Document) :
    inOrder (fun before d => (definitionViolations before d).map (Failure.problem d.source)) []
      (keptOf documents) = [] := by
  induction documents using List.reverseRecOn with
  | nil => rfl
  | append_singleton documents d ih =>
    rw [keptOf_append_singleton, inOrder_append, ih, List.nil_append, List.nil_append, inOrder_kept]

/-! ### Adding a document -/

/-- A definition with which nothing is wrong is registered.  With any other one there is one problem, which is told. -/
theorem register_declared_cases (before : List (Sourced Definition)) (d : Sourced Definition) :
    (definitionViolations before d = [] ∧ (declared before).register d = .ok (declared (before ++ [d]))) ∨
      ∃ problem, definitionViolations before d = [problem] ∧ (declared before).register d = .error problem := by
  have hreports := register_reports before d
  cases hregister : (declared before).register d with
  | ok catalog =>
    rw [hregister] at hreports
    exact .inl ⟨hreports, by rw [register_declared hregister]⟩
  | error problem =>
    have hhead := (hreports.eq_error_iff problem).1 hregister
    refine .inr ⟨problem, ?_, rfl⟩
    unfold definitionViolations at hhead ⊢
    cases hd : d.value with
    | table t =>
      simp only [hd] at hhead ⊢
      split at hhead <;> simp_all
    | enumeration e =>
      simp only [hd] at hhead ⊢
      split at hhead <;> simp_all
    | other kind name start stop =>
      simp only [hd] at hhead ⊢
      simpa using hhead

/-- Of definitions behind others those before the first failing one are registered, and this one is told. -/
theorem registerAll_declared (before definitions : List (Sourced Definition)) :
    ((declared before).registerAll definitions).1 = declared (before ++ kept before definitions) ∧
      (((declared before).registerAll definitions).2 = none ∧ kept before definitions = definitions ∨
        ∃ d later problem, definitions = kept before definitions ++ d :: later ∧
          definitionViolations (before ++ kept before definitions) d = [problem] ∧
          ((declared before).registerAll definitions).2 = some ⟨d.source, problem⟩) := by
  induction definitions generalizing before with
  | nil => exact ⟨by rw [kept, List.append_nil]; rfl, .inl ⟨rfl, rfl⟩⟩
  | cons d rest ih =>
    rcases register_declared_cases before d with ⟨hnone, hregister⟩ | ⟨problem, hone, hregister⟩
    · obtain ⟨hcatalog, htold⟩ := ih (before ++ [d])
      simp only [kept, hnone, if_true, Catalog.registerAll, hregister]
      rw [List.append_assoc, List.singleton_append] at hcatalog
      refine ⟨hcatalog, ?_⟩
      rcases htold with ⟨htold, hall⟩ | ⟨failing, later, problem, heq, hone, htold⟩
      · exact .inl ⟨htold, by rw [hall]⟩
      · rw [List.append_assoc, List.singleton_append] at hone
        exact .inr ⟨failing, later, problem, by rw [List.cons_append, ← heq], hone, htold⟩
    · have hne : definitionViolations before d ≠ [] := by simp [hone]
      simp only [kept, hne, if_false, Catalog.registerAll, hregister, List.append_nil]
      exact ⟨trivial, .inr ⟨d, rest, problem, rfl, hone, rfl⟩⟩

/-! ### Whole runs -/

theorem run_append_singleton (calls : List Call) (x : Call) :
    Construction.run (calls ++ [x]) = (Construction.run calls).call x := by
  simp [Construction.run, List.foldl_append]

theorem addedDocuments_append_singleton (calls : List Call) (x : Call) :
    addedDocuments (calls ++ [x]) = addedDocuments calls ++ x.document?.toList := by
  rw [addedDocuments, List.filterMap_append]
  cases x <;> rfl

/-- After any calls a catalog consists of the definitions that are kept of the documents. -/
theorem catalog_run (calls : List Call) :
    (Construction.run calls).catalog = declared (keptOf (addedDocuments calls)) := by
  induction calls using List.reverseRecOn with
  | nil => rfl
  | append_singleton calls x ih =>
    rw [run_append_singleton, addedDocuments_append_singleton]
    show (Construction.run calls).catalog.after x = _
    rw [ih]
    cases x with
    | add d => rw [Call.document?, Option.toList_some, keptOf_append_singleton, ← (registerAll_declared _ _).1]; rfl
    | build => rw [Call.document?, Option.toList_none, List.append_nil]; rfl

theorem length_answers_run (calls : List Call) : (Construction.run calls).answers.length = calls.length := by
  induction calls using List.reverseRecOn with
  | nil => rfl
  | append_singleton calls x ih =>
    rw [run_append_singleton, Construction.call, List.length_append, List.length_append, ih]
    rfl

theorem answers_run_isPrefix (calls more : List Call) :
    (Construction.run calls).answers <+: (Construction.run (calls ++ more)).answers := by
  induction more using List.reverseRecOn with
  | nil => rw [List.append_nil]
  | append_singleton more x ih =>
    rw [← List.append_assoc, run_append_singleton]
    exact ih.trans (List.prefix_append _ _)

/-- What a call tells depends on the calls before it alone, and stays. -/
theorem answer_run (before : List Call) (x : Call) (after : List Call) :
    (Construction.run (before ++ x :: after)).answers[before.length]? =
      some ((Construction.run before).catalog.answer x) := by
  obtain ⟨later, hlater⟩ := answers_run_isPrefix (before ++ [x]) after
  rw [List.append_assoc, List.singleton_append] at hlater
  rw [← hlater, run_append_singleton, Construction.call, ← length_answers_run before, List.append_assoc,
    List.getElem?_append_right (le_refl _), Nat.sub_self]
  rfl

/-! ### Earlier and later catalogs -/

/-- A catalog that another one begins with. -/
structure Catalog.IsPrefix (earlier later : Catalog) : Prop where
  tables : earlier.tables <+: later.tables
  enumerations : earlier.enumerations <+: later.enumerations

namespace Catalog

variable {c c' : Catalog}

/-- A name that means a table goes on to mean this table. -/
theorem IsPrefix.table? (h : c.IsPrefix c') {name : String} {t : Sourced TableDeclaration}
    (ht : c.table? name = some t) : c'.table? name = some t := by
  obtain ⟨more, hmore⟩ := h.tables
  rw [Catalog.table?] at ht
  rw [Catalog.table?, ← hmore, List.find?_append, ht, Option.some_or]

/-- A name that means an enumeration goes on to mean this enumeration. -/
theorem IsPrefix.enumeration? (h : c.IsPrefix c') {name : String} {e : Sourced EnumerationDeclaration}
    (he : c.enumeration? name = some e) : c'.enumeration? name = some e := by
  obtain ⟨more, hmore⟩ := h.enumerations
  rw [Catalog.enumeration?] at he
  rw [Catalog.enumeration?, ← hmore, List.find?_append, he, Option.some_or]

/-- Without repeated names every enumeration is the one with its name. -/
theorem enumeration?_of_mem (hnodup : c.enumerationNames.Nodup) {e : Sourced EnumerationDeclaration}
    (he : e ∈ c.enumerations) : c.enumeration? e.value.name.text = some e := by
  have hsome : (c.enumeration? e.value.name.text).isSome := isSome_enumeration?_iff.2 (List.mem_map_of_mem he)
  obtain ⟨found, hfound⟩ := Option.isSome_iff_exists.1 hsome
  have hname : found.value.name.text = e.value.name.text := by simpa using List.find?_some hfound
  rw [hfound, List.inj_on_of_nodup_map hnodup (List.mem_of_find?_eq_some hfound) he hname]

end Catalog

theorem declared_isPrefix {definitions more : List (Sourced Definition)} (h : definitions <+: more) :
    (declared definitions).IsPrefix (declared more) :=
  ⟨h.filterMap _, h.filterMap _⟩

/-- The definitions that are kept after `i` calls and `n` definitions of the next call. -/
def keptAt (calls : List Call) (i n : Nat) : List (Sourced Definition) :=
  let before := keptOf (addedDocuments (calls.take i))
  match calls[i]? with
  | some (.add d) => before ++ kept before ((definitionsOf d).take n)
  | _ => before

section Time

variable {calls : List Call} {i j n m : Nat}

theorem catalogAt_eq (calls : List Call) (i n : Nat) : catalogAt calls i n = declared (keptAt calls i n) := by
  unfold catalogAt keptAt
  simp only [catalog_run]
  split
  · exact (registerAll_declared _ _).1
  · rfl

theorem catalogAt_length (calls : List Call) : catalogAt calls calls.length 0 = (Construction.run calls).catalog := by
  simp [catalogAt]

theorem keptAt_prefix_of_le (h : n ≤ m) : keptAt calls i n <+: keptAt calls i m := by
  unfold keptAt
  split
  · exact (List.prefix_append_right_inj _).2 (kept_isPrefix_of_isPrefix _ (List.take_prefix_take_left h))
  · exact List.prefix_rfl

theorem keptOf_take_isPrefix (calls : List Call) (i n : Nat) :
    keptOf (addedDocuments (calls.take i)) <+: keptAt calls i n := by
  unfold keptAt
  split
  · exact List.prefix_append _ _
  · exact List.prefix_rfl

/-- Within a call, no more is kept than when the call is through. -/
theorem keptAt_prefix_succ (calls : List Call) (i n : Nat) :
    keptAt calls i n <+: keptOf (addedDocuments (calls.take (i + 1))) := by
  rw [List.take_add_one]
  unfold keptAt
  cases hcall : calls[i]? with
  | none => simp
  | some x =>
    rw [Option.toList_some, addedDocuments_append_singleton]
    cases x with
    | add d =>
      rw [Call.document?, Option.toList_some, keptOf_append_singleton]
      exact (List.prefix_append_right_inj _).2 (kept_isPrefix_of_isPrefix _ (List.take_prefix _ _))
    | build => simp [Call.document?]

/-- The catalog at any moment is a beginning of the catalog at any later moment. -/
theorem catalogAt_isPrefix (h : i < j ∨ i = j ∧ n ≤ m) : (catalogAt calls i n).IsPrefix (catalogAt calls j m) := by
  rw [catalogAt_eq, catalogAt_eq]
  apply declared_isPrefix
  rcases h with hlt | ⟨rfl, hle⟩
  · have hcalls : calls.take (i + 1) <+: calls.take j := List.take_prefix_take_left hlt
    calc keptAt calls i n
      _ <+: keptOf (addedDocuments (calls.take (i + 1))) := keptAt_prefix_succ calls i n
      _ <+: keptOf (addedDocuments (calls.take j)) := keptOf_isPrefix_of_isPrefix (hcalls.filterMap _)
      _ <+: keptAt calls j m := keptOf_take_isPrefix calls j m
  · exact keptAt_prefix_of_le hle

end Time

/-! ### What a run accounts for -/

/-- What a construction tells of the calls that led to it. -/
structure Construction.AccountsFor (c : Construction) (calls : List Call) : Prop where
  /-- The tables and the enumerations are those among the definitions that are kept, in order. -/
  catalog : c.catalog = declared (keptOf (addedDocuments calls))
  tableNames : c.catalog.tableNames.Nodup
  enumerationNames : c.catalog.enumerationNames.Nodup
  /-- A name means the table that was registered under it. -/
  table : ∀ t ∈ c.catalog.tables, c.catalog.table? t.value.name.text = some t
  /-- A name means the enumeration that was registered under it. -/
  enumeration : ∀ e ∈ c.catalog.enumerations, c.catalog.enumeration? e.value.name.text = some e
  /-- At any moment the catalog begins with what it was at an earlier one, and no name has got another meaning. -/
  moments : ∀ i n j m, (i < j ∨ i = j ∧ n ≤ m) →
    (catalogAt calls i n).IsPrefix (catalogAt calls j m) ∧
      (∀ name t, (catalogAt calls i n).table? name = some t → (catalogAt calls j m).table? name = some t) ∧
      ∀ name e, (catalogAt calls i n).enumeration? name = some e → (catalogAt calls j m).enumeration? name = some e
  /-- The last moment is the one behind all calls. -/
  last : catalogAt calls calls.length 0 = c.catalog
  /-- An addition keeps all definitions of its document, or it tells of the first that fails and keeps those before. -/
  added : ∀ before d after, calls = before ++ .add d :: after →
    let there := keptOf (addedDocuments before)
    let part := kept there (definitionsOf d)
    (c.answers[before.length]? = some (.added none) ∧ part = definitionsOf d) ∨
      ∃ failing later problem, definitionsOf d = part ++ failing :: later ∧
        definitionViolations (there ++ part) failing = [problem] ∧
        c.answers[before.length]? = some (.added (some ⟨failing.source, problem⟩))
  /-- A catalog that was handed out is still what it was then. -/
  built : ∀ before after, calls = before ++ .build :: after →
    c.answers[before.length]? = some (.built (catalogAt calls before.length 0))
  /-- Where no addition fails, the documents can as well be added at once. -/
  atOnce : (∀ problem, .added (some problem) ∉ c.answers) →
    (catalogOf (addedDocuments calls)).outcome = .ok c.catalog

section Account

variable {calls : List Call}

theorem catalogAt_append (before after : List Call) :
    catalogAt (before ++ after) before.length 0 = (Construction.run before).catalog := by
  unfold catalogAt
  rw [List.take_left]
  split
  · rfl
  · rfl

theorem answers_add_cases (before after : List Call) (d : Document) :
    let there := keptOf (addedDocuments before)
    let part := kept there (definitionsOf d)
    let answers := (Construction.run (before ++ .add d :: after)).answers
    (answers[before.length]? = some (.added none) ∧ part = definitionsOf d) ∨
      ∃ failing later problem, definitionsOf d = part ++ failing :: later ∧
        definitionViolations (there ++ part) failing = [problem] ∧
        answers[before.length]? = some (.added (some ⟨failing.source, problem⟩)) := by
  intro there part answers
  have htold : answers[before.length]? = some (.added ((declared there).registerAll (definitionsOf d)).2) := by
    rw [answer_run, catalog_run]
    rfl
  rw [htold]
  rcases (registerAll_declared there (definitionsOf d)).2 with
    ⟨hnone, hall⟩ | ⟨failing, later, problem, heq, hone, hsome⟩
  · exact .inl ⟨by rw [hnone], hall⟩
  · exact .inr ⟨failing, later, problem, heq, hone, by rw [hsome]⟩

/-- Where no addition fails, all definitions are kept. -/
theorem keptOf_eq_flatMap (h : ∀ problem, .added (some problem) ∉ (Construction.run calls).answers) :
    keptOf (addedDocuments calls) = (addedDocuments calls).flatMap definitionsOf := by
  induction calls using List.reverseRecOn with
  | nil => rfl
  | append_singleton calls x ih =>
    have hbefore := ih fun problem hmem => h problem ((answers_run_isPrefix calls [x]).subset hmem)
    rw [addedDocuments_append_singleton]
    cases x with
    | build => rwa [Call.document?, Option.toList_none, List.append_nil]
    | add d =>
      rw [Call.document?, Option.toList_some, keptOf_append_singleton, List.flatMap_append, List.flatMap_singleton,
        ← hbefore]
      rcases answers_add_cases calls [] d with
        ⟨-, hall⟩ | ⟨failing, later, problem, -, -, htold⟩
      · rw [hall]
      · exact absurd (List.mem_of_getElem? htold) (h _)

theorem outcome_catalogOf_keptOf {documents : List Document}
    (h : keptOf documents = documents.flatMap definitionsOf) :
    (catalogOf documents).outcome = .ok (declared (keptOf documents)) := by
  have hnone := inOrder_keptOf documents
  rw [h] at hnone ⊢
  obtain ⟨hreports, hcatalog⟩ := registerOne_foldlM_reports (documents.flatMap definitionsOf)
  obtain ⟨catalog, hok⟩ := hreports.exists_ok_iff.2 hnone
  rw [catalogOf, Run.outcome_fold, hok, hcatalog catalog hok]

end Account

/-- Whatever is called, and however many additions fail in between: the catalog consists of what was kept, in order and
without repeated names, it only ever grows behind, every failure tells of the definition at which it came, and the
catalogs that were handed out stay as they were. -/
theorem run_accounts (calls : List Call) : (Construction.run calls).AccountsFor calls := by
  have hcatalog := catalog_run calls
  obtain ⟨-, htableNames, henumerationNames⟩ :=
    inOrder_definitionViolations_eq_nil_iff.1 (inOrder_keptOf (addedDocuments calls))
  rw [← hcatalog] at htableNames henumerationNames
  exact {
    catalog := hcatalog
    tableNames := htableNames
    enumerationNames := henumerationNames
    table := fun t ht => Catalog.table?_of_mem htableNames ht
    enumeration := fun e he => Catalog.enumeration?_of_mem henumerationNames he
    moments := fun i n j m h =>
      ⟨catalogAt_isPrefix h, fun _ _ => (catalogAt_isPrefix h).table?, fun _ _ => (catalogAt_isPrefix h).enumeration?⟩
    last := catalogAt_length calls
    added := by
      rintro before d after rfl
      exact answers_add_cases before after d
    built := by
      rintro before after rfl
      rw [answer_run, catalogAt_append]
      rfl
    atOnce := fun h => by rw [hcatalog, outcome_catalogOf_keptOf (keptOf_eq_flatMap h)] }

/-- The second document fails in its middle: `B` stays, `C` is never registered, and the catalog that was handed out
before knows nothing of either. -/
example :
    let documents := ["type A", "type B type A type C"].filterMap fun text => (Source.numbered 1 text).document?
    let r := Construction.run (documents.flatMap fun d => [.add d, .build])
    r.catalog.tableNames = ["A", "B"] ∧
      r.answers.map (fun | .built c => c.tableNames | .added refused => (refused.map (·.value.message)).toList) =
        [[], ["A"], ["Table with this name has already been defined."], ["A", "B"]] := by
  decide +kernel

end TableSchema
