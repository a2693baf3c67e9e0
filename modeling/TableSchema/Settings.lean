import TableSchema.Files.Load
import TableSchema.LogLevel
import TableSchema.Settings.Assignment
import TableSchema.Text.LetterCase
import TableSchema.Text.Numeral

/-!
# Settings

The program is set up by variables of the environment and of an assignment file.  Names count without regard to case,
and the environment wins.  `Settings.load` reads all settings and reports every one that is wrong.
-/

namespace TableSchema

open Text

/-- The settings of a run. -/
structure Settings where
  schemaDirectory : Files.Path
  filePattern : String
  workers : Nat
  logLevel : LogLevel

/-- What can be wrong with a setting. -/
inductive SettingError
  | workersNotInteger (given : String)
  | workersTooLong (given : String)
  | tooFewWorkers (given : String)
  | unknownLogLevel (given : String)
deriving DecidableEq

namespace SettingError

/-- The setting that is wrong. -/
def field : SettingError → String
  | workersNotInteger _ => "max_workers"
  | workersTooLong _ => "max_workers"
  | tooFewWorkers _ => "max_workers"
  | unknownLogLevel _ => "log_level"

/-- How an error is called. -/
def kind : SettingError → String
  | workersNotInteger _ => "int_parsing"
  | workersTooLong _ => "int_parsing_size"
  | tooFewWorkers _ => "greater_than_equal"
  | unknownLogLevel _ => "value_error"

/-- The message of an error. -/
def message : SettingError → String
  | workersNotInteger _ => "Input should be a valid integer, unable to parse string as an integer"
  | workersTooLong _ => "Unable to parse input string as an integer, exceeded maximum size"
  | tooFewWorkers _ => "Input should be greater than or equal to 1"
  | unknownLogLevel given => s!"Value error, Unknown log level: {given}"

end SettingError

namespace Settings

/-- What the names of all variables start with. -/
def variableStart : String := "dat_schema_"

/-- Finds a setting among variables and their values.  Names count without regard to case; the last of a name counts. -/
def findVariable? {α : Type} (pairs : List (String × α)) (field : String) : Option α :=
  (pairs.reverse.find? fun v => lower v.1.toList = (variableStart ++ field).toList).map (·.2)

/-- Reads the number of workers. -/
def readWorkers (given : String) : Except SettingError Nat :=
  match readInteger? given.toList with
  | none => .error (.workersNotInteger given)
  | some n =>
    if isTooLong n then .error (.workersTooLong given)
    else if n < 1 then .error (.tooFewWorkers given)
    else .ok n.toNat

/-- Reads a level. -/
def readLogLevel (given : String) : Except SettingError LogLevel :=
  match LogLevel.ofName? given with
  | none => .error (.unknownLogLevel given)
  | some level => .ok level

/-- The error of a reading, if it failed. -/
def errorOf {ε α : Type} : Except ε α → List ε
  | .error e => [e]
  | .ok _ => []

/-- Reads the settings from the environment and the text of an assignment file.  Errors stand in the order of the
settings. -/
def load (environment : List (String × String)) (file : String) : Except (List SettingError) Settings :=
  let assigned := assignedVariables environment (assignments file)
  let given (field : String) : Option String :=
    match findVariable? environment field with
    | some value => some value
    | none => (findVariable? assigned field).bind id
  let directory := Files.Path.ofString ((given "schema_dir").getD ".")
  let pattern := (given "file_pattern").getD Files.defaultPattern
  let workers := readWorkers ((given "max_workers").getD "1")
  let level := readLogLevel ((given "log_level").getD LogLevel.warning.text)
  match workers, level with
  | .ok workers, .ok level => .ok ⟨directory, pattern, workers, level⟩
  | workers, level => .error (errorOf workers ++ errorOf level)

/-- The settings as a text. -/
def summary (s : Settings) : String :=
  "Config(schema_dir=" ++ quoted s.schemaDirectory.toString ++ ", file_pattern=" ++ quoted s.filePattern
    ++ s!", max_workers={s.workers}, log_level=" ++ quoted s.logLevel.text ++ ")"

end Settings

end TableSchema
