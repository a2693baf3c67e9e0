import TableSchema.Proofs.Arrangement

/-!
# Where directives are checked

The grammar lets a directive stand at a table, at a field and at an argument of it, at an enumeration and at an
enumerator of it (`Definition.Bears`).  Three of these places are sites, which have directives of their own; an argument
and an enumerator have none.

Main statements: in documents that have a schema every directive at a site is one of those that may stand there, with
the arguments that it takes, and all others can be exchanged freely (`directives_fit_at_sites`); so a directive that
does not fit goes unnoticed at an argument and at an enumerator (`directives_not_fit_inside`).
-/

namespace TableSchema

open Syntax Analysis

/-! ### Places of directives -/

/-- The places at which the grammar of tables and enumerations lets a directive stand. -/
inductive Bearer
  | site (site : Site)
  | argument
  | enumerator
deriving DecidableEq

/-- The directives that may stand at a place: at arguments and enumerators none. -/
def Bearer.legal : Bearer → List MarkKind
  | site s => s.legal
  | argument => []
  | enumerator => []

/-- A definition with a directive at a place. -/
inductive Syntax.Definition.Bears : Definition → Bearer → Directive → Prop
  | table {t : TableDeclaration} {d : Directive} (h : d ∈ t.directives) : Bears (.table t) (.site .table) d
  | field {t : TableDeclaration} {field : FieldDeclaration} {d : Directive} (hfield : field ∈ t.fields)
      (h : d ∈ field.directives) :
    Bears (.table t) (.site .field) d
  | argument {t : TableDeclaration} {field : FieldDeclaration} {a : InputValue} {d : Directive}
      (hfield : field ∈ t.fields) (ha : a ∈ field.arguments) (h : d ∈ a.directives) :
    Bears (.table t) .argument d
  | enumeration {e : EnumerationDeclaration} {d : Directive} (h : d ∈ e.directives) :
    Bears (.enumeration e) (.site .enumeration) d
  | enumerator {e : EnumerationDeclaration} {v : EnumeratorDeclaration} {d : Directive} (hv : v ∈ e.values)
      (h : d ∈ v.directives) :
    Bears (.enumeration e) .enumerator d

/-- A directive that says something that may be said at a place. -/
def Syntax.Directive.Fits (place : Bearer) (d : Directive) : Prop :=
  ∃ m, d.Says m ∧ m.kind ∈ place.legal

/-- Every directive of well-formed definitions that stands at a site fits there. -/
theorem WellFormed.fits {definitions : List Definition} (h : WellFormed definitions) {definition : Definition}
    (hdefinition : definition ∈ definitions) {site : Site} {d : Directive} (hbears : definition.Bears (.site site) d) :
    d.Fits (.site site) := by
  cases hbears with
  | table hd => exact (h.tables _ hdefinition).directives d hd
  | field hfield hd => exact ((h.tables _ hdefinition).fields _ hfield).directives d hd
  | enumeration hd => exact (h.enumerations _ hdefinition).directives d hd

/-! ### Directives that are not looked at -/

/-- A field whose arguments have no directives. -/
def Syntax.FieldDeclaration.plain (field : FieldDeclaration) : FieldDeclaration :=
  { field with arguments := field.arguments.map fun a => { a with directives := [] } }

/-- A table whose fields have no directives at their arguments. -/
def Syntax.TableDeclaration.plain (t : TableDeclaration) : TableDeclaration :=
  { t with fields := t.fields.map FieldDeclaration.plain }

/-- An enumeration whose enumerators have no directives. -/
def Syntax.EnumerationDeclaration.plain (e : EnumerationDeclaration) : EnumerationDeclaration :=
  { e with values := e.values.map fun v => { v with directives := [] } }

/-- A definition with directives at sites only. -/
def Syntax.Definition.plain : Definition → Definition
  | .table t => .table t.plain
  | .enumeration e => .enumeration e.plain
  | .other kind name start stop => .other kind name start stop

/-- A document with directives at sites only. -/
def Syntax.Document.plain (document : Document) : Document :=
  { document with definitions := document.definitions.map Definition.plain }

theorem Syntax.Definition.bare_plain (definition : Definition) : definition.plain.bare = definition.bare := by
  cases definition with
  | table t => simp [Definition.plain, Definition.bare, TableDeclaration.plain, TableDeclaration.bare,
      FieldDeclaration.plain, FieldDeclaration.bare]
  | enumeration e => simp [Definition.plain, Definition.bare, EnumerationDeclaration.plain,
      EnumerationDeclaration.bare, EnumeratorDeclaration.bare]
  | other kind name start stop => rfl

theorem bareDefinitions_plain (documents : List Document) :
    bareDefinitions (documents.map Document.plain) = bareDefinitions documents := by
  simp [bareDefinitions, List.flatMap_map, List.map_flatMap, Document.plain, Function.comp_def, Definition.bare_plain]

/-- Documents that differ in directives outside of sites have the same schema. -/
theorem outcome_analyzeDocuments_of_plain {documents documents' : List Document}
    (h : documents'.map Document.plain = documents.map Document.plain) {schema : Schema}
    (hschema : (analyzeDocuments documents).outcome = .ok schema) :
    (analyzeDocuments documents').outcome = .ok schema := by
  have hbare : bareDefinitions documents' = bareDefinitions documents := by
    rw [← bareDefinitions_plain documents', h, bareDefinitions_plain]
  rw [outcome_analyzeDocuments_eq_ok_iff] at hschema ⊢
  rwa [hbare]

/-! ### Documents with a schema -/

/-- In documents with a schema every directive at a table, a field or an enumeration fits there.  With other directives
at arguments and enumerators, whatever they are, the documents have the same schema. -/
theorem directives_fit_at_sites {sources : List Source} {schema : Schema} (h : analyze sources = .ok schema) :
    ∃ documents, sources.mapM parse = .ok documents ∧
      (∀ definition ∈ documents.flatMap (·.definitions), ∀ site d, definition.Bears (.site site) d →
        d.Fits (.site site)) ∧
      ∀ documents', documents'.map Document.plain = documents.map Document.plain →
        (analyzeDocuments documents').outcome = .ok schema := by
  obtain ⟨documents, hparse, hwell, -⟩ := analyze_eq_ok_iff.1 h
  refine ⟨documents, hparse, fun definition hdefinition site d => hwell.fits hdefinition, fun documents' hplain => ?_⟩
  rw [analyze_eq_of_mapM_parse hparse] at h
  exact outcome_analyzeDocuments_of_plain hplain h

/-- A table with a directive at each of its places, and an enumeration likewise. -/
theorem directives_fit_at_sites_everywhere :
    ∃ sources schema, analyze sources = .ok schema ∧
      ∃ documents, sources.mapM parse = .ok documents ∧
        (∀ definition ∈ documents.flatMap (·.definitions), ∀ site d, definition.Bears (.site site) d →
          d.Fits (.site site)) ∧
        ∀ documents', documents'.map Document.plain = documents.map Document.plain →
          (analyzeDocuments documents').outcome = .ok schema := by
  let sources : List Source :=
    [.numbered 1 "type A @tags(list: [\"t\"]) \x7b x(a: i32 @unique(b: 1)): i32 @unique \x7d",
      .numbered 2 "enum E @indexing(first: 1) \x7b a @tags \x7d"]
  let x : Column := ⟨some "x", none, false, .scalar .i32, true, false, none, none, none⟩
  have h : analyze sources = .ok ⟨[⟨"A", ["t"], [x]⟩], [⟨"E", 1, [some "a"]⟩]⟩ := by decide +kernel
  exact ⟨sources, _, h, directives_fit_at_sites h⟩

/-- Every directive at a place of documents that have a schema fits there. -/
def DirectivesFit (place : Bearer) : Prop :=
  ∀ sources schema documents, analyze sources = .ok schema → sources.mapM parse = .ok documents →
    ∀ definition ∈ documents.flatMap (·.definitions), ∀ d, definition.Bears place d → d.Fits place

/-- Nothing fits at an argument or at an enumerator, but a directive that is nowhere known can stand there. -/
theorem directives_not_fit_inside : ¬ DirectivesFit .argument ∧ ¬ DirectivesFit .enumerator := by
  constructor
  · let source : Source := .numbered 1 "type A \x7b x(a: i32 @nonsense): i32 \x7d"
    let nonsense : Directive := ⟨18, ⟨19, "nonsense"⟩, []⟩
    let a : InputValue := ⟨11, none, ⟨11, "a"⟩, .named 14 "i32", none, [nonsense]⟩
    let x : FieldDeclaration := ⟨9, none, ⟨9, "x"⟩, [a], .named 30 "i32", []⟩
    let t : TableDeclaration := ⟨0, 35, none, ⟨5, "A"⟩, [], [], [x]⟩
    let column : Column := ⟨some "x", none, false, .scalar .i32, false, false, none, none, none⟩
    have hanalyze : analyze [source] = .ok ⟨[⟨"A", [], [column]⟩], []⟩ := by decide +kernel
    have hparse : [source].mapM parse = .ok [⟨source, [.table t]⟩] := by decide +kernel
    intro hfit
    obtain ⟨m, -, hlegal⟩ :=
      hfit _ _ _ hanalyze hparse (.table t) (.head _) nonsense (.argument (.head _) (.head _) (.head _))
    cases hlegal
  · let source : Source := .numbered 1 "enum E @indexing(first: 0) \x7b a @nonsense \x7d"
    let nonsense : Directive := ⟨31, ⟨32, "nonsense"⟩, []⟩
    let a : EnumeratorDeclaration := ⟨29, none, ⟨29, "a"⟩, [nonsense]⟩
    let indexing : Directive := ⟨7, ⟨8, "indexing"⟩, [⟨⟨17, "first"⟩, .literal (.int 24 "0")⟩]⟩
    let e : EnumerationDeclaration := ⟨0, 42, none, ⟨5, "E"⟩, [indexing], [a]⟩
    have hanalyze : analyze [source] = .ok ⟨[], [⟨"E", 0, [some "a"]⟩]⟩ := by decide +kernel
    have hparse : [source].mapM parse = .ok [⟨source, [.enumeration e]⟩] := by decide +kernel
    intro hfit
    obtain ⟨m, -, hlegal⟩ :=
      hfit _ _ _ hanalyze hparse (.enumeration e) (.head _) nonsense (.enumerator (.head _) (.head _))
    cases hlegal

end TableSchema
