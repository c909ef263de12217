import TagScript.Settings

/-!
# Options of the command line

* `OptionSpec` describes an option, `Given` is one as the user gave it.
* `UsageError` lists the mistakes of a command line, `UsageError.message` words them.
* `scan` separates the options of a command line from its other arguments.
-/

namespace TagScript.Console

/-- An option of a command. -/
structure OptionSpec where
  flag : String
  /-- How help shows the value that the option takes, if it takes one. -/
  value : Option String
  help : String

/-- An option as it was given. -/
structure Given where
  flag : String
  value : Option String
deriving DecidableEq, Repr

/-- Why a file cannot be opened. -/
inductive OpenError where
  | missing
  | directory
  | notDirectory
deriving DecidableEq, Repr

/-- The error in words. -/
def OpenError.message : OpenError → String
  | .missing => "No such file or directory"
  | .directory => "Is a directory"
  | .notDirectory => "Not a directory"

/-- A mistake in a command line. -/
inductive UsageError where
  | needsValue (flag : String)
  | takesNoValue (flag : String)
  | noSuchOption (flag : String)
  | missingCommand
  | noSuchCommand (name : String)
  | extraArguments (args : List String)
  | badFormat (given : String)
  | cannotOpen (path : String) (error : OpenError)
  | noSource
  | twoSources
  | badSettings (error : SettingsError)

namespace UsageError

/-- The mistake in words. -/
def message : UsageError → String
  | needsValue flag => s!"Option {Text.quoted flag} requires an argument."
  | takesNoValue flag => s!"Option {Text.quoted flag} does not take a value."
  | noSuchOption flag => s!"No such option {Text.quoted flag}."
  | missingCommand => "Missing command."
  | noSuchCommand name => s!"No such command {Text.quoted name}."
  | extraArguments args =>
    let noun := if args.length = 1 then "argument" else "arguments"
    let shown := " ".intercalate args
    s!"Got unexpected extra {noun} ({shown})"
  | badFormat given =>
    s!"Invalid value for '--format': {Text.quoted given} is not one of 'text', 'json'."
  | cannotOpen path error => s!"Invalid value for '[SOURCE]': '{path}': {error.message}"
  | noSource => "Missing SOURCE (a file path, or - for stdin)."
  | twoSources => "Give either SOURCE or --text, not both."
  | badSettings error => error.message

/-- The mistake is reported without the usage of the command. -/
def standsAlone : UsageError → Bool
  | needsValue _ | takesNoValue _ => true
  | _ => false

end UsageError

/-! ### Scanning -/

/-- The argument is an option: a hyphen and more. -/
def isOption (arg : String) : Bool :=
  match arg.toList with
  | '-' :: _ :: _ => true
  | _ => false

/-- The flag of an argument and the value behind an equals sign. -/
def splitFlag (arg : String) : String × Option String :=
  let cs := arg.toList
  let flag := cs.takeWhile (· ≠ '=')
  match cs.drop flag.length with
  | [] => (arg, none)
  | _ :: value => (String.ofList flag, some (String.ofList value))

/-- The name under which an unknown option is reported: a single hyphen begins a row of options of
one character each, of which the first counts. -/
def unknownFlag (arg : String) : String :=
  match arg.toList with
  | '-' :: '-' :: _ => (splitFlag arg).1
  | cs => String.ofList (cs.take 2)

/-- Puts an option before those that follow. -/
def withOption (flag : String) (value : Option String) :
    Except UsageError (List Given × List String) → Except UsageError (List Given × List String)
  | .ok (given, args) => .ok (⟨flag, value⟩ :: given, args)
  | .error e => .error e

/-- Puts an argument before those that follow. -/
def withArgument (arg : String) :
    Except UsageError (List Given × List String) → Except UsageError (List Given × List String)
  | .ok (given, args) => .ok (given, arg :: args)
  | .error e => .error e

/-- The options and the other arguments of a command line. Two hyphens end the options; so does the
first other argument, unless they may be mixed. -/
def scan (specs : List OptionSpec) (mixed : Bool) :
    List String → Except UsageError (List Given × List String)
  | [] => .ok ([], [])
  | arg :: rest =>
    if arg = "--" then .ok ([], rest)
    else if isOption arg then
      let (flag, value) := splitFlag arg
      match specs.find? (·.flag == flag) with
      | none => .error (.noSuchOption (unknownFlag arg))
      | some spec =>
        if spec.value.isSome then
          match value with
          | some v => withOption flag (some v) (scan specs mixed rest)
          | none =>
            match rest with
            | [] => .error (.needsValue flag)
            | v :: others => withOption flag (some v) (scan specs mixed others)
        else if value.isSome then .error (.takesNoValue flag)
        else withOption flag none (scan specs mixed rest)
    else if mixed then withArgument arg (scan specs mixed rest)
    else .ok ([], arg :: rest)

/-- The option was given. -/
def given (options : List Given) (flag : String) : Bool := options.any (·.flag == flag)

/-- The last value given to an option. -/
def valueOf (options : List Given) (flag : String) : Option String :=
  (options.reverse.find? (·.flag == flag)).bind (·.value)

end TagScript.Console
