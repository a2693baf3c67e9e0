import TableSchema.Analysis.Trace
import TableSchema.LogLevel
import TableSchema.Resolution
import TableSchema.Syntax.Grammar

/-!
# Analysis of schema texts

Sources are parsed in order, their definitions registered in order, and then every table and every enumeration is
resolved against the complete catalog.  The first failure ends the analysis.  The run keeps a trace of the items that
went through; `analyze` is its outcome.
-/

namespace TableSchema

open Syntax

/-- How an analysis fails. -/
inductive Failure
  | syntaxError (source : Source) (e : SyntaxError)
  | problem (source : Source) (p : Problem)
  | refWithoutTable (field : String)
  | integerTooLong (digits : Nat)
deriving DecidableEq

/-- A fault in a source as a failure. -/
def Fault.inSource (source : Source) : Fault → Failure
  | .problem p => .problem source p
  | .refWithoutTable field => .refWithoutTable field
  | .integerTooLong digits => .integerTooLong digits

/-- A problem in a source as a failure. -/
def Sourced.failure (p : Sourced Problem) : Failure :=
  .problem p.source p.value

namespace Analysis

/-- What a trace tells: an item went through a stage. -/
inductive Event
  | parsed (source : String)
  | registeredTable (name : String)
  | registeredEnumeration (name : String)
  | resolvedTable (name : String) (columns : Nat)
  | resolvedEnumeration (name : String) (enumerators : Nat)
  | analyzed (tables enumerations : Nat)
  | failed (message : String)
deriving DecidableEq

/-- The stages that events come from. -/
inductive Stage
  | analysis
  | catalog
  | tables
  | enumerations
deriving DecidableEq

namespace Event

/-- The stage that an event comes from. -/
def stage : Event → Stage
  | parsed _ => .analysis
  | registeredTable _ => .catalog
  | registeredEnumeration _ => .catalog
  | resolvedTable .. => .tables
  | resolvedEnumeration .. => .enumerations
  | analyzed .. => .analysis
  | failed _ => .analysis

/-- The level of an event: the summary informs, all else is detail. -/
def level : Event → LogLevel
  | analyzed .. => .info
  | _ => .debug

/-- The message of an event. -/
def message : Event → String
  | parsed source => s!"Parsed {source}"
  | registeredTable name => s!"Registered {NodeKind.table.text} {name}"
  | registeredEnumeration name => s!"Registered {NodeKind.enumeration.text} {name}"
  | resolvedTable name columns => s!"Resolved table {name} with {columns} columns"
  | resolvedEnumeration name enumerators => s!"Resolved enum {name} with {enumerators} enumerators"
  | analyzed tables enumerations => s!"Analyzed {tables} tables and {enumerations} enumerations"
  | failed message => s!"Analysis failed: {message}"

/-- The event of a definition that was registered. -/
def registered (d : Definition) : Event :=
  match d with
  | .enumeration e => .registeredEnumeration e.name.text
  | d => .registeredTable (d.name?.getD "")

end Event

/-- A run of the analysis or of a part of it. -/
abbrev Traced (α : Type) := Run Event Failure α

/-- Parses one source. -/
def parseSource (s : Source) : Except Failure Document :=
  (parse s).mapError (.syntaxError s)

/-- Parses sources in order. -/
def parseSources (sources : List Source) : Traced (List Document) :=
  .each parseSource (fun s _ => .parsed s.name) sources

/-- Registers one definition. -/
def registerOne (c : Catalog) (d : Sourced Definition) : Except Failure Catalog :=
  (c.register d).mapError (.problem d.source)

/-- Registers the definitions of documents in order. -/
def catalogOf (documents : List Document) : Traced Catalog :=
  .fold registerOne (fun d => .registered d.value) .empty (documents.flatMap definitionsOf)

/-- Resolves one table against a catalog. -/
def tableOf (c : Catalog) (t : Sourced TableDeclaration) : Except Failure Table :=
  (resolveTable c t.value).mapError (·.inSource t.source)

/-- Resolves one enumeration. -/
def enumerationOf (e : Sourced EnumerationDeclaration) : Except Failure Enumeration :=
  (resolveEnumeration e.value).mapError (·.inSource e.source)

/-- Resolves everything in a catalog: the tables first, then the enumerations. -/
def schemaOf (c : Catalog) : Traced Schema := do
  let tables ← .each (tableOf c) (fun _ t => .resolvedTable t.name t.columns.length) c.tables
  let enumerations ← .each enumerationOf (fun _ e => .resolvedEnumeration e.name e.enumerators.length) c.enumerations
  return ⟨tables, enumerations⟩

/-- Analyses parsed documents. -/
def analyzeDocuments (documents : List Document) : Traced Schema := do
  let catalog ← catalogOf documents
  schemaOf catalog

/-- Analyses sources up to the summary. -/
def analyzeSources (sources : List Source) : Traced Schema := do
  let documents ← parseSources sources
  let schema ← analyzeDocuments documents
  .note (.analyzed schema.tables.length schema.enumerations.length)
  return schema

/-- The message of a failure. -/
def failureMessage : Failure → String
  | .syntaxError _ e => e.message
  | .problem _ p => p.message
  | .refWithoutTable field => refWithoutTableMessage field
  | .integerTooLong digits => Text.integerTooLongMessage digits

/-- The event that ends the trace of a failure.  A failure that is not reported leaves none. -/
def failureEvents : Failure → List Event
  | .refWithoutTable _ => []
  | .integerTooLong _ => []
  | failure => [.failed (failureMessage failure)]

/-- The whole run of an analysis: a failure is noted last. -/
def run (sources : List Source) : Traced Schema :=
  let r := analyzeSources sources
  match r.outcome with
  | .ok _ => r
  | .error failure => ⟨r.events ++ failureEvents failure, .error failure⟩

end Analysis

/-- Analyses sources into a schema. -/
def analyze (sources : List Source) : Except Failure Schema :=
  (Analysis.run sources).outcome

end TableSchema
