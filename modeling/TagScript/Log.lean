import TagScript.Text.UpperCase

/-!
# The log

* `Log.Level` lists the level names, two of which are synonyms; `number` orders them.
* `Log.Entry` is a message of one part of the program.
-/

namespace TagScript.Log

/-- A level, by the name under which it was given. -/
inductive Level where
  | critical
  | fatal
  | error
  | warning
  | warn
  | info
  | debug
  | notset
deriving DecidableEq, Repr

namespace Level

/-- Every level. -/
def all : List Level := [critical, fatal, error, warning, warn, info, debug, notset]

/-- The name of a level. -/
def name : Level → String
  | critical => "CRITICAL"
  | fatal => "FATAL"
  | error => "ERROR"
  | warning => "WARNING"
  | warn => "WARN"
  | info => "INFO"
  | debug => "DEBUG"
  | notset => "NOTSET"

/-- The weight of a level. -/
def number : Level → Nat
  | critical | fatal => 50
  | error => 40
  | warning | warn => 30
  | info => 20
  | debug => 10
  | notset => 0

/-- The level of a name in any letter case. -/
def ofName? (s : String) : Option Level := all.find? (·.name == Text.upper s)

@[simp] theorem ofName?_name (l : Level) : ofName? l.name = some l := by cases l <;> decide

end Level

/-- The part of the program that writes an entry. -/
inductive Source where
  | reading
  | projection
  | runner
  | console
deriving DecidableEq, Repr

/-- The name of a part, as the log shows it. -/
def Source.name : Source → String
  | .reading => "tagshell.parsing.document"
  | .projection => "tagshell.commands.projection"
  | .runner => "tagshell.commands.runner"
  | .console => "tagshell.cli"

/-- A message of the log. -/
structure Entry where
  level : Level
  source : Source
  message : String
deriving DecidableEq, Repr

/-- The entry as one line. -/
def Entry.line (e : Entry) : String := s!"{e.level.name}: {e.source.name}: {e.message}"

end TagScript.Log
