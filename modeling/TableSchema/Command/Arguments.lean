import TableSchema.Files.Path
import TableSchema.Text.Numeral
import TableSchema.Text.Quoted

/-!
# Command line arguments

Options stand before the name of a command or, if they belong to the command, anywhere behind it.  A long option takes
its value behind an equals sign or from the next argument, a short one from the same or the next argument; short
options can be joined.  Two dashes end the options.
-/

namespace TableSchema.Command

open Files (Path)

/-- An option: how it is written, and whether it takes a value. -/
structure OptionForm where
  long : String
  short : Option Char
  takesValue : Bool
deriving DecidableEq

/-- Why arguments lead to no run: they ask for help, or something is wrong with them. -/
inductive UsageError
  | helpAsked
  | noSuchOption (given : String)
  | valueMissing (given : String)
  | valueRefused (given : String)
  | badCount (given : String)
  | badPath (given : String)
  | commandMissing
  | noSuchCommand (given : String)
  | argumentMissing (name : String)
  | optionMissing (name : String)
  | extraArgument (given : String)
deriving DecidableEq

/-- The exit code when arguments lead to no run. -/
def UsageError.exitCode : UsageError → Nat
  | helpAsked => 0
  | _ => 2

/-- The message when arguments lead to no run. -/
def UsageError.message : UsageError → String
  | helpAsked => "Usage: [--verbose] [--workers N] (check | show | export | split) [ARGUMENTS]"
  | noSuchOption given => s!"No such option: {given}"
  | valueMissing given => s!"Option '{given}' requires an argument."
  | valueRefused given => s!"Option '{given}' does not take a value."
  | badCount given => s!"Invalid value for '--workers': '{given}' is not a positive integer."
  | badPath given => s!"Invalid value: {Text.quoted given} is no path."
  | commandMissing => "Missing command."
  | noSuchCommand given => s!"No such command '{given}'."
  | argumentMissing name => s!"Missing argument '{name}'."
  | optionMissing name => s!"Missing option '{name}'."
  | extraArgument given => s!"Got unexpected extra argument ({given})"

/-- Arguments that were told apart: options by their long form, and the others. -/
structure Sorted where
  options : List (String × String)
  others : List String

namespace Sorted

/-- The value of the last option of a form. -/
def option? (s : Sorted) (long : String) : Option String :=
  (s.options.reverse.find? (·.1 = long)).map (·.2)

/-- Puts another argument in front. -/
def consOther (arg : String) (s : Sorted) : Sorted :=
  { s with others := arg :: s.others }

end Sorted

/-- A short option and what stands behind it in the same argument. -/
structure ShortUse where
  form : OptionForm
  attached : List Char

/-- The joined short options of an argument, up to the first one that takes a value. -/
def readShorts (forms : List OptionForm) : List Char → Except UsageError (List ShortUse)
  | [] => .ok []
  | c :: rest =>
    match forms.find? (·.short = some c) with
    | none => .error (.noSuchOption ("-" ++ c.toString))
    | some form =>
      if form.takesValue then .ok [⟨form, rest⟩] else (⟨form, []⟩ :: ·) <$> readShorts forms rest

/-- The options that an argument with a dash in front means: each with the value that the argument gives it. -/
def readOption (forms : List OptionForm) (arg : String) : Except UsageError (List (OptionForm × Option String)) :=
  let spelled := String.ofList (arg.toList.takeWhile (· ≠ '='))
  let attached := (arg.toList.dropWhile (· ≠ '=')).drop 1
  let hasValue := arg.toList.contains '='
  match forms.find? (·.long = spelled) with
  | some form =>
    if hasValue && !form.takesValue then .error (.valueRefused form.long)
    else .ok [(form, if hasValue then some (String.ofList attached) else none)]
  | none =>
    if arg.startsWith "--" then .error (.noSuchOption spelled)
    else (·.map fun use => (use.form, if use.attached.isEmpty then none else some (String.ofList use.attached))) <$>
      readShorts forms (arg.toList.drop 1)

/-- Tells options and other arguments apart.  Without `anywhere` the first other argument ends the options. -/
def sort (forms : List OptionForm) (anywhere : Bool) : List String → Except UsageError Sorted
  | [] => .ok ⟨[], []⟩
  | arg :: rest =>
    if arg = "--" then .ok ⟨[], rest⟩
    else if arg.startsWith "-" ∧ arg ≠ "-" then
      match readOption forms arg with
      | .error e => .error e
      | .ok uses =>
        let given := uses.map fun (form, value) => (form.long, value.getD "")
        match uses.getLast? with
        | some (form, none) =>
          if form.takesValue then
            match rest with
            | [] => .error (.valueMissing form.long)
            | value :: rest =>
              (fun s => { s with options := given.dropLast ++ (form.long, value) :: s.options }) <$>
                sort forms anywhere rest
          else (fun s => { s with options := given ++ s.options }) <$> sort forms anywhere rest
        | _ => (fun s => { s with options := given ++ s.options }) <$> sort forms anywhere rest
    else if anywhere then (·.consOther arg) <$> sort forms anywhere rest
    else .ok ⟨[], arg :: rest⟩

/-! ### Commands -/

/-- The option that shows how the program is used. -/
def helpForm : OptionForm := ⟨"--help", none, false⟩

/-- The options before the command. -/
def mainForms : List OptionForm :=
  [⟨"--verbose", some 'v', false⟩, ⟨"--workers", some 'w', true⟩]

/-- The names of the commands. -/
inductive CommandName
  | check
  | showTables
  | exportJson
  | splitFile
deriving DecidableEq

/-- The command with a name. -/
def CommandName.of? (name : String) : Option CommandName :=
  [("check", check), ("show", showTables), ("export", exportJson), ("split", splitFile)].lookup name

/-- What stands before a command, the command, and what stands behind it. -/
structure Request where
  verbose : Bool
  workers : Option Nat
  command : CommandName
  arguments : List String

/-- A count of at least one. -/
def readCount (given : String) : Except UsageError Nat :=
  match Text.readInteger? given.toList with
  | some (.ofNat (n + 1)) => if Text.isTooLong (n + 1) then .error (.badCount given) else .ok (n + 1)
  | _ => .error (.badCount given)

/-- A path, which holds no null character. -/
def readPath (given : String) : Except UsageError Path :=
  if given.contains '\x00' then .error (.badPath given) else .ok (Path.ofString given)

/-- Tells options and other arguments apart, unless help is asked for. -/
def sortUnlessHelp (forms : List OptionForm) (anywhere : Bool) (arguments : List String) :
    Except UsageError Sorted := do
  let s ← sort (forms ++ [helpForm]) anywhere arguments
  if (s.option? helpForm.long).isSome then throw .helpAsked
  return s

/-- Reads arguments up to the name of the command. -/
def readRequest (arguments : List String) : Except UsageError Request := do
  let s ← sortUnlessHelp mainForms false arguments
  let workers ← match s.option? "--workers" with
    | some given => some <$> readCount given
    | none => pure none
  match s.others with
  | [] => throw .commandMissing
  | name :: rest =>
    match CommandName.of? name with
    | none => throw (.noSuchCommand name)
    | some command => return ⟨(s.option? "--verbose").isSome, workers, command, rest⟩

/-- What the program is asked to do. -/
inductive Task
  | check (paths : List Path)
  | showTables (paths : List Path) (table : Option String)
  | exportJson (paths : List Path) (output : Option Path)
  | splitFile (file directory : Path)
deriving DecidableEq

/-- Reads the arguments behind the name of a command. -/
def readTask : CommandName → List String → Except UsageError Task
  | .check, arguments => do
    let s ← sortUnlessHelp [] true arguments
    return .check (← s.others.mapM readPath)
  | .showTables, arguments => do
    let s ← sortUnlessHelp [⟨"--table", some 't', true⟩] true arguments
    return .showTables (← s.others.mapM readPath) (s.option? "--table")
  | .exportJson, arguments => do
    let s ← sortUnlessHelp [⟨"--output", some 'o', true⟩] true arguments
    return .exportJson (← s.others.mapM readPath) (← (s.option? "--output").mapM readPath)
  | .splitFile, arguments => do
    let s ← sortUnlessHelp [⟨"--output-dir", some 'o', true⟩] true arguments
    match s.others, s.option? "--output-dir" with
    | [], _ => throw (.argumentMissing "FILE")
    | _, none => throw (.optionMissing "--output-dir")
    | [file], some directory => return .splitFile (← readPath file) (← readPath directory)
    | _ :: extra :: _, _ => throw (.extraArgument extra)

end TableSchema.Command
