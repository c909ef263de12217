import TagScript.Issue
import TagScript.Log
import TagScript.Text.Space

/-!
# Settings

* `Settings` holds the log level, the output format and two switches.
* `Settings.build` checks named data and reports every issue, `Settings.override` lays data over
  settings, `Settings.ofEnvironment` reads environment variables.
-/

namespace TagScript

/-- How commands are printed. -/
inductive OutputFormat where
  | text
  | json
deriving DecidableEq, Repr

/-- The word of an output format. -/
def OutputFormat.word : OutputFormat → String
  | .text => "text"
  | .json => "json"

/-- The output format of a word. -/
def OutputFormat.ofWord? (s : String) : Option OutputFormat :=
  [OutputFormat.text, OutputFormat.json].find? (·.word == s)

@[simp] theorem OutputFormat.ofWord?_word (f : OutputFormat) : ofWord? f.word = some f := by
  cases f <;> decide

/-- What the user can choose. -/
structure Settings where
  logLevel : Log.Level
  outputFormat : OutputFormat
  dryRun : Bool
  stopOnError : Bool
deriving DecidableEq, Repr

/-- Why settings could not be had. -/
inductive SettingsError where
  /-- A variable that should be a switch holds something else. -/
  | badSwitch (variableName given : String)
  /-- Data that break rules. -/
  | invalid (issues : List Issue)

/-- The error in words. -/
def SettingsError.message : SettingsError → String
  | .badSwitch variableName given =>
    s!"Invalid boolean for {variableName}: {Text.quoted given}"
  | .invalid issues => "Invalid configuration: " ++ Issue.reportAll "TagShellConfig" issues

namespace Settings

/-- The settings when nothing is given. -/
def default : Settings := ⟨.warning, .text, false, true⟩

/-! ### Fields -/

/-- A level is given by its name. -/
def readLevel : Datum → Except Rule Log.Level
  | .str s =>
    match Log.Level.ofName? s with
    | some level => .ok level
    | none => .error (.unknownLevel s)
  | _ => .error .stringType

/-- An output format is given by its word. -/
def readFormat : Datum → Except Rule OutputFormat
  | .str s =>
    match OutputFormat.ofWord? s with
    | some format => .ok format
    | none => .error .outputFormat
  | _ => .error .outputFormat

/-- Words that turn a switch on, in lower case. -/
def onWords : List String := ["1", "on", "t", "true", "y", "yes"]

/-- Words that turn a switch off, in lower case. -/
def offWords : List String := ["0", "off", "f", "false", "n", "no"]

/-- The number fits into 64 bits. -/
def isWord64 (n : Int) : Bool := -9223372036854775808 ≤ n && n ≤ 9223372036854775807

/-- Among the numbers of double precision, 0 is nearest to the fraction `digits / 10 ^ places`. -/
def nearZero (digits : Int) (places : Nat) : Bool :=
  digits.natAbs * Nat.pow 2 1075 ≤ Nat.pow 10 places

/-- Among the numbers of double precision, 1 is nearest to the fraction `digits / 10 ^ places`. Its
neighbours are `1 - 2⁻⁵³` and `1 + 2⁻⁵²`, and halfway between two numbers the even one is taken. -/
def nearOne (digits : Int) (places : Nat) : Bool :=
  (Nat.pow 2 54 - 1) * Nat.pow 10 places ≤ digits.toNat * Nat.pow 2 54 &&
    digits.toNat * Nat.pow 2 53 ≤ (Nat.pow 2 53 + 1) * Nat.pow 10 places

/-- A switch is given by a truth value, by 0 or 1, or by a word in any case of Latin letters. -/
def readSwitch : Datum → Except Rule Bool
  | .bool b => .ok b
  | .int n =>
    if n = 0 then .ok false
    else if n = 1 then .ok true
    else if isWord64 n then .error .boolParsing
    else .error .boolType
  | .decimal digits places =>
    if nearZero digits places then .ok false
    else if nearOne digits places then .ok true
    else .error .boolType
  | .str s =>
    let word := s.map Char.toLower
    if onWords.contains word then .ok true
    else if offWords.contains word then .ok false
    else .error .boolParsing
  | _ => .error .boolType

/-- A field read by its rule, or the given default. -/
def field {α : Type} (fields : Fields) (key : String) (absent : α)
    (read : Datum → Except Rule α) : Except Issue α :=
  match fields.lookup key with
  | none => .ok absent
  | some d =>
    match read d with
    | .ok v => .ok v
    | .error rule => .error ⟨key, none, rule, d⟩

/-- The names of the settings. -/
def keys : List String := ["log_level", "output_format", "dry_run", "stop_on_error"]

/-- Fields that are no settings. -/
def extras (fields : Fields) : List Issue :=
  (fields.filter fun f => !keys.contains f.1).map fun f => ⟨f.1, none, .extraForbidden, f.2⟩

/-- The issue of a field, if it has one. -/
def issueOf {α : Type} : Except Issue α → List Issue
  | .ok _ => []
  | .error issue => [issue]

/-- The settings of the given fields, with defaults for those that are absent, or every issue: those
of the settings in their order, then fields that are no settings. -/
def build (fields : Fields) : Except (List Issue) Settings :=
  let level := field fields "log_level" default.logLevel readLevel
  let format := field fields "output_format" default.outputFormat readFormat
  let dry := field fields "dry_run" default.dryRun readSwitch
  let stop := field fields "stop_on_error" default.stopOnError readSwitch
  match level, format, dry, stop, extras fields with
  | .ok level, .ok format, .ok dry, .ok stop, [] => .ok ⟨level, format, dry, stop⟩
  | _, _, _, _, extra =>
    .error (issueOf level ++ issueOf format ++ issueOf dry ++ issueOf stop ++ extra)

/-- Settings as fields. -/
def toFields (s : Settings) : Fields :=
  [("log_level", .str s.logLevel.name), ("output_format", .str s.outputFormat.word),
   ("dry_run", .bool s.dryRun), ("stop_on_error", .bool s.stopOnError)]

/-- The settings with every update that is present laid over them. -/
def override (s : Settings) (updates : Fields) : Except (List Issue) Settings :=
  build (s.toFields.put updates.present)

/-! ### Environment -/

/-- Environment variables. -/
abbrev Environment := List (String × String)

/-- Texts that turn a switch on in the environment, in lower case. -/
def onTexts : List String := ["1", "true", "yes", "on"]

/-- Texts that turn a switch off in the environment, in lower case. -/
def offTexts : List String := ["0", "false", "no", "off", ""]

/-- The switch in an environment variable, with space around it and in any letter case. No
character but a Latin letter becomes a letter of these texts in lower case. -/
def switchText (variableName given : String) : Except SettingsError Bool :=
  let text := (Text.strip given).map Char.toLower
  if onTexts.contains text then .ok true
  else if offTexts.contains text then .ok false
  else .error (.badSwitch variableName given)

/-- The text in an environment variable, without the space around it, as a field. -/
def textField (environment : Environment) (variableName key : String) : Fields :=
  match environment.lookup variableName with
  | none => []
  | some given => [(key, .str (Text.strip given))]

/-- The switch in an environment variable as a field. -/
def switchField (environment : Environment) (variableName key : String) :
    Except SettingsError Fields :=
  match environment.lookup variableName with
  | none => .ok []
  | some given => (switchText variableName given).map fun b => [(key, .bool b)]

/-- The settings of an environment. -/
def ofEnvironment (environment : Environment) : Except SettingsError Settings :=
  let level := textField environment "TAGSHELL_LOG_LEVEL" "log_level"
  let format := textField environment "TAGSHELL_OUTPUT_FORMAT" "output_format"
  match switchField environment "TAGSHELL_DRY_RUN" "dry_run" with
  | .error e => .error e
  | .ok dry =>
    match switchField environment "TAGSHELL_STOP_ON_ERROR" "stop_on_error" with
    | .error e => .error e
    | .ok stop => (build (level ++ format ++ dry ++ stop)).mapError .invalid

end Settings

end TagScript
