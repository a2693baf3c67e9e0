import TableSchema.Main
import TableSchema.Proofs.WellFormed
import TableSchema.Proofs.References
import TableSchema.Proofs.Pool
import TableSchema.Proofs.Arrangement
import TableSchema.Proofs.Shape
import TableSchema.Proofs.Export
import TableSchema.Proofs.Splitting
import TableSchema.Proofs.Placement
import TableSchema.Proofs.Mirror
import TableSchema.Proofs.Lookup
import TableSchema.Result
import TableSchema.Proofs.SelfCheck
import TableSchema.Proofs.Verdict
import TableSchema.Proofs.Extension
import TableSchema.Proofs.Renaming
import TableSchema.Proofs.Positions
import TableSchema.Proofs.ReportPlaces
import TableSchema.Proofs.Construction
import TableSchema.Proofs.Progress
import TableSchema.Proofs.SplitFiles
import TableSchema.Proofs.Commands
import TableSchema.Proofs.Workers
import TableSchema.Proofs.FirstDirectives
import TableSchema.Proofs.Refusals
import TableSchema.Proofs.RefOutcome
import TableSchema.Proofs.Footprint
import TableSchema.Proofs.Repetitions
import TableSchema.Proofs.Extracts
import TableSchema.Proofs.SplitEffect
import TableSchema.Proofs.LoadedSources
import TableSchema.Proofs.ShownColumns
