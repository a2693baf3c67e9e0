import TableSchema.Analysis

/-!
# Reports

A report is what an author is told about a failure: its kind and message, where it shows, and the cause that it
wraps, if any.  The text of a report is its message followed by an excerpt for every place.
-/

namespace TableSchema

open Syntax

/-- Where a report points in its source: at an offset, or at nodes. -/
inductive Places
  | offset (position : Nat)
  | nodes (shown : List Node)
deriving DecidableEq

/-- The offsets that a report points at. -/
def Places.positions : Places → List Nat
  | offset position => [position]
  | nodes shown => shown.map (·.start)

/-- A kind, a message and the places that show it. -/
structure Finding where
  kind : ProblemKind
  message : String
  source : Source
  places : Places
deriving DecidableEq

namespace Finding

/-- The lines and columns of the places, without regard to the origin of the source. -/
def locations (f : Finding) : List Text.Location :=
  f.places.positions.map f.source.location

/-- The message and an excerpt for every place, with an empty line between them. -/
def text (f : Finding) : String :=
  "\n\n".intercalate (f.message :: f.locations.map f.source.excerpt)

end Finding

/-- What a report wraps: the message of the parser, or the finding about the target of a reference. -/
inductive Cause
  | parser (message : String)
  | finding (f : Finding)
deriving DecidableEq

/-- A finding and its cause. -/
structure Report where
  finding : Finding
  cause : Option Cause
deriving DecidableEq

/-- A syntax error as a report. -/
def SyntaxError.report (source : Source) (e : Syntax.SyntaxError) : Report :=
  ⟨⟨.malformedSyntax, e.message, source, .offset e.position⟩, some (.parser e.message)⟩

/-- A problem with the target of a reference as a finding. -/
def TargetProblem.finding (source : Source) (p : TargetProblem) : Finding :=
  ⟨p.kind, p.message, source, .nodes [p.node]⟩

/-- The cause of a problem. -/
def Problem.cause : Problem → Option Cause
  | .invalidTarget _ source cause => some (.finding (cause.finding source))
  | _ => none

/-- A problem as a report. -/
def Problem.report (source : Source) (p : Problem) : Report :=
  ⟨⟨p.kind, p.message, source, .nodes p.nodes⟩, p.cause⟩

/-- A failure as a report.  A reference without a table and an integer that is too long have none. -/
def Failure.report? : Failure → Option Report
  | .syntaxError source e => some (SyntaxError.report source e)
  | .problem source p => some (p.report source)
  | .refWithoutTable _ => none
  | .integerTooLong _ => none

end TableSchema
