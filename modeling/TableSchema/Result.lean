import TableSchema.Report

/-!
# Results

A result is what an analysis hands to its caller: the schema, or the report of the first failure.  Besides, an analysis
checks itself at three places.  A check that fails is nothing that an author of schemas could mend, so there is no
result then, and no report.  Neither is there one if an integer has too many digits to be read.
-/

namespace TableSchema

open Syntax

/-- What fails a check of the analysis on itself: a reference directive on a field without a table, a column with a type
that is none, and a result with neither a schema nor a report. -/
inductive InternalError
  | refWithoutTable (field : String)
  | unexpectedType (text : String)
  | missingSchema
deriving DecidableEq

/-- The message of a check that failed. -/
def InternalError.message : InternalError → String
  | refWithoutTable field => refWithoutTableMessage field
  | unexpectedType text => "unexpected column type " ++ Text.quoted text
  | missingSchema => "successful result without a schema"

/-- The last check of a column: the text of its type must be that of a column type. -/
def checkType (text : String) : Except InternalError ColumnType :=
  match ColumnType.ofText? text with
  | none => .error (.unexpectedType text)
  | some type => .ok type

/-- The schema of an analysis, or the report of its failure. -/
structure Result where
  schema : Option Schema
  report : Option Report
deriving DecidableEq

/-- Why a result gives no schema. -/
inductive Refusal
  | report (r : Report)
  | internal (e : InternalError)
deriving DecidableEq

/-- The schema of a result.  A report comes first, and one of the two must be there. -/
def Result.unwrap (r : Result) : Except Refusal Schema :=
  match r.report, r.schema with
  | some report, _ => .error (.report report)
  | none, some schema => .ok schema
  | none, none => .error (.internal .missingSchema)

/-- What escapes an analysis in the place of a result. -/
inductive Escape
  | internal (e : InternalError)
  | integerTooLong (digits : Nat)
deriving DecidableEq

/-- The message of what escapes. -/
def Escape.message : Escape → String
  | internal e => e.message
  | integerTooLong digits => Text.integerTooLongMessage digits

/-- Analyses sources into a result. -/
def analysisResult (sources : List Source) : Except Escape Result :=
  match analyze sources with
  | .ok schema => .ok ⟨some schema, none⟩
  | .error (.syntaxError source e) => .ok ⟨none, some (SyntaxError.report source e)⟩
  | .error (.problem source p) => .ok ⟨none, some (p.report source)⟩
  | .error (.refWithoutTable field) => .error (.internal (.refWithoutTable field))
  | .error (.integerTooLong digits) => .error (.integerTooLong digits)

end TableSchema
