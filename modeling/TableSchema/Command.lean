import TableSchema.Command.Arguments
import TableSchema.Files.Split
import TableSchema.Model.Export
import TableSchema.Report
import TableSchema.Settings
import TableSchema.Terminal.Grid

/-!
# The command line

`Command.run` carries out a command on a disk.  Its outcome tells what is printed on both streams, the exit code, the
disk afterwards, and the fault that broke the run off, if one did that no command expects.
-/

namespace TableSchema.Command

open Files Syntax Terminal

/-- A fault that breaks a run off. -/
inductive Crash
  | refWithoutTable (field : String)
  | integerTooLong (digits : Nat)
  | file (e : FileError)
  | encoding (e : Text.Utf8Error)
  | pattern (fault : PatternFault)
  | tag (fault : TagFault)
deriving DecidableEq

/-- The message of a crash. -/
def Crash.message : Crash → String
  | refWithoutTable field => refWithoutTableMessage field
  | integerTooLong digits => Text.integerTooLongMessage digits
  | file e => e.message
  | encoding e => e.message
  | pattern fault => fault.message
  | tag fault => fault.message

/-- What a run leaves behind. -/
structure Outcome where
  exitCode : Nat
  output : String
  errors : String
  crash : Option Crash
  events : List Analysis.Event
  level : LogLevel
  disk : Disk

/-- How a command ends before it is through. -/
inductive Stop
  | usage (e : UsageError)
  | told (errors : String)
  | crashed (c : Crash)

/-- The state of a run: the disk, and the events of the analysis. -/
structure RunState where
  disk : Disk
  events : List Analysis.Event

/-- A step of a run. -/
abbrev Action (α : Type) := ExceptT Stop (StateM RunState) α

/-- An error line: a heading that stands as it is, and a text. -/
def errorLine (heading text : String) : String :=
  printed (heading.toList ++ [' '] ++ display text.toList)

/-- The line of an error without a kind. -/
def plainError (text : String) : String :=
  errorLine "Error:" text

/-- A finding under a heading. -/
def findingText (heading : String) (f : Finding) : String :=
  errorLine (heading ++ " (" ++ f.kind.text ++ "):") f.text

/-- What is printed about a report: the finding, and the finding that it wraps. -/
def reportText (r : Report) : String :=
  findingText "Error" r.finding ++ match r.cause with
    | some (.finding cause) => findingText "Caused by" cause
    | _ => ""

/-- Ends a command because of a load error.  Some pattern faults are not expected. -/
def stopForLoad (e : LoadError) : Stop :=
  match e with
  | .pattern .absolute => .crashed (.pattern .absolute)
  | .pattern .noParts => .crashed (.pattern .noParts)
  | .pattern .noDirectory => .crashed (.pattern .noDirectory)
  | e => .told (plainError e.message)

/-- Ends a command because of a failed analysis. -/
def stopForFailure (f : Failure) : Stop :=
  match f with
  | .refWithoutTable field => .crashed (.refWithoutTable field)
  | .integerTooLong digits => .crashed (.integerTooLong digits)
  | .syntaxError source e => .told (reportText (SyntaxError.report source e))
  | .problem source p => .told (reportText (p.report source))

/-- Paths, or the configured directory in the stead of none. -/
def pathsOr (settings : Settings) (paths : List Path) : List Path :=
  if paths.isEmpty then [settings.schemaDirectory] else paths

/-- Loads and analyses the sources that paths stand for, or those of the configured directory.  The analysis goes
through them in sequence: with the configured number of workers it would end alike. -/
def loadSchema (settings : Settings) (paths : List Path) : Action Schema := do
  let state ← getThe RunState
  match loadSources state.disk settings.filePattern (pathsOr settings paths) with
  | .error e => throw (stopForLoad e)
  | .ok [] => throw (.told (plainError "No schema files found."))
  | .ok sources =>
    let r := Analysis.run sources
    set { state with events := r.events }
    match r.outcome with
    | .error f => throw (stopForFailure f)
    | .ok schema => return schema

/-- Changes the disk. -/
def change {ε α : Type} (c : Change ε α) (stop : ε → Stop) : Action α := do
  let state ← getThe RunState
  let (result, disk) := c.run.run state.disk
  set { state with disk }
  match result with
  | .ok a => return a
  | .error e => throw (stop e)

/-- A line that tells of success. -/
def successLine (text : String) : String :=
  printed ("✓ ".toList ++ display text.toList)

/-! ### Showing a schema -/

/-- The flags of a column. -/
def flagsText (c : Column) : String :=
  ", ".intercalate ((if c.unique then ["unique"] else []) ++ (if c.localized then ["localized"] else []))

/-- The files of a column: the single file, unless its extension is empty, and then the group. -/
def filesText (c : Column) : String :=
  " ".intercalate ((c.file.filter (· ≠ "")).toList ++ c.files.getD [])

/-- A name, or the placeholder instead. -/
def shownName (name : Option String) : String :=
  match name with
  | none => placeholder
  | some "" => placeholder
  | some name => name

/-- A table as a grid. -/
def tableGrid (t : Table) : Grid where
  title := if t.tags.isEmpty then t.name else t.name ++ " (" ++ ", ".intercalate t.tags ++ ")"
  headers := ["Column Name", "Type", "Flags", "References", "Files"]
  rows := t.columns.map fun c => [shownName c.name, c.typeText, flagsText c, c.referenceText, filesText c]

/-- Enumerations as a grid. -/
def enumerationGrid (es : List Enumeration) : Grid where
  title := "Enumerations"
  headers := ["Name", "Indexing", "Enumerators"]
  rows := es.map fun e => [e.name, toString e.indexing.val, ", ".intercalate (e.enumerators.map shownName)]

/-- Everything in a schema as grids. -/
def schemaText (s : Schema) : String :=
  String.join (s.tables.map fun t => (tableGrid t).toString)
    ++ if s.enumerations.isEmpty then "" else (enumerationGrid s.enumerations).toString

/-- What is printed about a table that is not there.  The name is protected before it is quoted, so that the quoted
text can still hold tags. -/
def unknownTable (name : String) : Stop :=
  let heading := "Error: Unknown table "
  let quotedName := Text.quoted (String.ofList (escape name.toList))
  match render (heading.length + "[red][/red]".length) (quotedName ++ ".").toList with
  | .ok text => .told (printed (heading.toList ++ text))
  | .error fault => .crashed (.tag fault)

/-! ### Tasks -/

/-- Carries out a task and gives what is printed. -/
def perform (settings : Settings) : Task → Action String
  | .check paths => do
    let s ← loadSchema settings paths
    return successLine s!"{s.tables.length} tables, {s.enumerations.length} enumerations"
  | .showTables paths none => do
    return schemaText (← loadSchema settings paths)
  | .showTables paths (some name) => do
    let s ← loadSchema settings paths
    match s.table? name with
    | none => throw (unknownTable name)
    | some t => return (tableGrid t).toString
  | .exportJson paths none => do
    let s ← loadSchema settings paths
    return s.exportText Schema.defaultIndent ++ "\n"
  | .exportJson paths (some output) => do
    let s ← loadSchema settings paths
    let bytes := Text.encodeUtf8 (s.exportText Schema.defaultIndent).toList
    change (Change.writeFile output bytes) fun e => .crashed (.file e)
    return successLine ("Schema written to " ++ output.toString)
  | .splitFile file directory => do
    match readText (← getThe RunState).disk file with
    | .error e => throw (stopForLoad e)
    | .ok text =>
      let written ← change (writeSplit text directory) fun e => .told (plainError e.message)
      return successLine s!"{written.length} files written to {directory.toString}"

/-- The file of settings. -/
def settingsFile : Path := ⟨.relative, [".env"]⟩

/-- The text of the file of settings, which is empty if it is missing. -/
def settingsText (d : Disk) : Except Text.Utf8Error String :=
  match d.read settingsFile with
  | .ok bytes => textOf bytes
  | .error _ => .ok ""

/-- What is printed about malformed statements in the file of settings. -/
def settingsWarnings (d : Disk) : String :=
  let warning (line : Nat) := s!"python-dotenv could not parse statement starting at line {line}\n"
  match settingsText d with
  | .ok text => String.join ((Settings.malformedLines text).map warning)
  | .error _ => ""

/-- What is printed about wrong settings. -/
def settingsErrors (errors : List SettingError) : String :=
  let count := if errors.length = 1 then "1 validation error" else s!"{errors.length} validation errors"
  let lines := errors.map fun e => "\n" ++ e.field ++ "\n  " ++ e.message
  plainError (count ++ " for Config" ++ String.join lines)

/-- Reads the settings; options before the command go first. -/
def readSettings (environment : List (String × String)) (request : Request) (d : Disk) : Except Stop Settings :=
  match settingsText d with
  | .error e => .error (.crashed (.encoding e))
  | .ok text =>
    match Settings.load environment text with
    | .error errors => .error (.told (settingsErrors errors))
    | .ok s => .ok { s with
        workers := request.workers.getD s.workers
        logLevel := if request.verbose then .debug else s.logLevel }

/-- What a run is going to do, and what is printed about the settings before. -/
structure Plan where
  warnings : String
  settings : Settings
  task : Task

/-- Why there is no plan, the level of what was told by then, and what was printed about the settings. -/
structure Refusal where
  warnings : String
  level : LogLevel
  stop : Stop

/-- Plans a run.  The settings are read after the name of the command and before the arguments behind it. -/
def plan (environment : List (String × String)) (arguments : List String) (d : Disk) : Except Refusal Plan :=
  match readRequest arguments with
  | .error e => .error ⟨"", .warning, .usage e⟩
  | .ok request =>
    let warnings := settingsWarnings d
    match readSettings environment request d with
    | .error stop => .error ⟨warnings, .warning, stop⟩
    | .ok settings =>
      match readTask request.command request.arguments with
      | .error e => .error ⟨warnings, settings.logLevel, .usage e⟩
      | .ok task => .ok ⟨warnings, settings, task⟩

/-- The outcome of a command that ended early, behind the warnings that were printed. -/
def Stop.outcome (warnings : String) (level : LogLevel) (state : RunState) : Stop → Outcome
  | usage e => ⟨e.exitCode, "", warnings ++ e.message ++ "\n", none, state.events, level, state.disk⟩
  | told errors => ⟨1, "", warnings ++ errors, none, state.events, level, state.disk⟩
  | crashed c => ⟨1, "", warnings, some c, state.events, level, state.disk⟩

/-- Carries out a plan on a disk. -/
def Plan.run (p : Plan) (d : Disk) : Outcome :=
  match (perform p.settings p.task).run.run ⟨d, []⟩ with
  | (.ok output, state) => ⟨0, output, p.warnings, none, state.events, p.settings.logLevel, state.disk⟩
  | (.error stop, state) => stop.outcome p.warnings p.settings.logLevel state

/-- Runs the program with an environment, arguments and a disk. -/
def run (environment : List (String × String)) (arguments : List String) (d : Disk) : Outcome :=
  match plan environment arguments d with
  | .ok p => p.run d
  | .error refusal => refusal.stop.outcome refusal.warnings refusal.level ⟨d, []⟩

/-- The paths that a plan reads from or writes to, if no pattern leads out of a directory. -/
def Plan.paths (p : Plan) : List Path :=
  match p.task with
  | .check paths => pathsOr p.settings paths
  | .showTables paths _ => pathsOr p.settings paths
  | .exportJson paths output => pathsOr p.settings paths ++ output.toList
  | .splitFile file directory => [file, directory]

end TableSchema.Command
