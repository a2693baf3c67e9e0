/-!
# Levels

Everything that is told while a program runs has a level.  A level is chosen by its name, and what lies below it is
left out.
-/

namespace TableSchema

/-- How much is told while the program runs. -/
inductive LogLevel
  | critical
  | fatal
  | error
  | warn
  | warning
  | info
  | debug
  | notset
deriving DecidableEq

namespace LogLevel

/-- How a level is written. -/
def text : LogLevel → String
  | critical => "CRITICAL"
  | fatal => "FATAL"
  | error => "ERROR"
  | warn => "WARN"
  | warning => "WARNING"
  | info => "INFO"
  | debug => "DEBUG"
  | notset => "NOTSET"

/-- The rank of a level.  Events below it are not told. -/
def rank : LogLevel → Nat
  | critical => 50
  | fatal => 50
  | error => 40
  | warn => 30
  | warning => 30
  | info => 20
  | debug => 10
  | notset => 0

/-- Every level. -/
def all : List LogLevel := [critical, fatal, error, warn, warning, info, debug, notset]

/-- A letter in upper case.  Two letters outside ASCII have upper cases inside. -/
def upperChar (c : Char) : Char :=
  if c = '\u0131' then 'I' else if c = '\u017f' then 'S' else c.toUpper

/-- The level with a name, in any case. -/
def ofName? (name : String) : Option LogLevel :=
  all.find? fun level => level.text.toList = name.toList.map upperChar

end LogLevel

end TableSchema
