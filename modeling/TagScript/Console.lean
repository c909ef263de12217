import TagScript.Console.Help
import TagScript.Console.Json
import TagScript.Console.Tree
import TagScript.Report
import TagScript.Run
import TagScript.Text.Screen

/-!
# The console

The program as a function from what it is given to what it answers.

* `Request` holds arguments, standard input, environment, files and the script of started programs;
  `Reply` holds exit status, output, calls and what the program broke on, if it did.
* `execute` answers a request: options of the program, subcommand, settings, options of the
  subcommand, source, and then the subcommand itself.
-/

namespace TagScript.Console

/-- What the program is given. -/
structure Request where
  args : List String
  stdin : String
  environment : Settings.Environment
  openFile : String → Except OpenError ByteArray
  script : List Attempt

/-- What the program can break on. -/
inductive Crash where
  /-- A file that is no UTF-8 text. -/
  | undecodable
  /-- A failure of the system while a program was started. -/
  | systemError
  /-- A fault in reading the document. -/
  | fault (fault : Fault)
  /-- Options of a subcommand that make the settings invalid. -/
  | badSettings
deriving DecidableEq, Repr

/-- What the program answers. -/
structure Reply where
  status : Int
  stdout : String
  stderr : String
  calls : List (List String)
  crash : Option Crash
deriving DecidableEq, Repr

namespace Reply

/-- A reply that only prints. -/
def printed (stdout : String) : Reply := ⟨0, stdout, "", [], none⟩

/-- A reply that only reports an error. -/
def failed (status : Int) (stderr : String) : Reply := ⟨status, "", stderr, [], none⟩

/-- The reply to a usage error. -/
def misused (page : Page) (e : UsageError) : Reply := failed 2 (page.complaint e)

/-- A reply in which the program breaks. -/
def broken (crash : Crash) : Reply := ⟨1, "", "", [], some crash⟩

/-- The reply with a text before its error output. -/
def behind (stderr : String) (r : Reply) : Reply := { r with stderr := stderr ++ r.stderr }

end Reply

/-! ### Output -/

/-- The lines of the log entries that the settings let through. -/
def logText (settings : Settings) (entries : List Log.Entry) : String :=
  String.join ((entries.filter (settings.logLevel.number ≤ ·.level.number)).map (·.line ++ "\n"))

/-- An error message as the screen shows it. -/
def errorText (message : String) : String := Text.onScreen message ++ "\n"

/-- Lines, each with its end. -/
def unlines (ls : List String) : String := String.join (ls.map (· ++ "\n"))

/-- The exit status for a code: death by signal `n`, which is the code `-n`, counts as `128 + n`. -/
def exitStatus (code : Int) : Int := if code < 0 then 128 - code else code

/-! ### Sources -/

/-- A text and the name under which messages show it. -/
structure Source where
  name : String
  text : String
deriving DecidableEq, Repr

/-- What is read from a file or from standard input: text in UTF-8, with unified line ends. -/
def sourceText (bytes : ByteArray) : Option String :=
  (String.fromUTF8? bytes).map fun s => String.ofList (Text.unifyNewlines s.toList)

/-- The bytes and the name of a source argument; a hyphen is standard input. -/
def openSource (request : Request) (path : String) : Except UsageError (String × ByteArray) :=
  if path = "-" then .ok ("<stdin>", request.stdin.toUTF8)
  else
    match request.openFile path with
    | .ok bytes => .ok (path, bytes)
    | .error e => .error (.cannotOpen path e)

/-! ### Subcommands -/

/-- Reads the source and goes on with the document, or reports why it is none. -/
def withDocument (settings : Settings) (source : Source) (next : Document → Reply) : Reply :=
  match Document.tryParse source.text with
  | .error fault => .broken (.fault fault)
  | .ok outcome =>
    let log := logText settings (Document.notes outcome)
    match outcome with
    | .success _ d => (next d).behind log
    | .failure _ failed =>
      .failed 1 (log ++ errorText (ParseError.of failed source.text (some source.name)).message)

/-- Prints the tree of a document. -/
def printTree (d : Document) : Reply := .printed (unlines (treeLines d))

/-- Prints the commands of a document. -/
def printCommands (settings : Settings) (d : Document) : Reply :=
  let printed :=
    match settings.outputFormat with
    | .json => jsonCommands d.project ++ "\n"
    | .text => unlines (d.project.map (·.line))
  (Reply.printed printed).behind (logText settings d.projectNotes)

/-- The log entries after a run in which some commands failed. -/
def failureNotes (failed : List Int) : List Log.Entry :=
  if failed.isEmpty then [] else [⟨.debug, .console, s!"{failed.length} command(s) failed"⟩]

/-- Runs the commands of a document. The exit status is that of the first command that failed. -/
def runDocument (settings : Settings) (script : List Attempt) (d : Document) : Reply :=
  let commands := d.project
  let run := Command.runAll settings.dryRun settings.stopOnError commands script
  let stdout := if settings.dryRun then unlines (commands.map (·.line)) else ""
  let log := logText settings (d.projectNotes ++ run.log)
  match run.result with
  | .ok codes =>
    let failed := codes.filter (· ≠ 0)
    let status := exitStatus (failed.headD 0)
    ⟨status, stdout, log ++ logText settings (failureNotes failed), run.calls, none⟩
  | .error .systemError => ⟨1, stdout, log, run.calls, some .systemError⟩
  | .error e => ⟨1, stdout, log ++ errorText e.message, run.calls, none⟩

/-- The updates that the options of a subcommand make to the settings. -/
def updates (command : Subcommand) (options : List Given) : Fields :=
  match command with
  | .parse => []
  | .commands =>
    match valueOf options "--format" with
    | some word => [("output_format", .str word)]
    | none => []
  | .run =>
    (if given options "--dry-run" then [("dry_run", .bool true)] else []) ++
      (if given options "--keep-going" then [("stop_on_error", .bool false)] else [])

/-- Carries out a subcommand on a source. -/
def perform (request : Request) (command : Subcommand) (settings : Settings) (source : Source) :
    Reply :=
  withDocument settings source fun d =>
    match command with
    | .parse => printTree d
    | .commands => printCommands settings d
    | .run => runDocument settings request.script d

/-- The value of `--format`, if it is given, must be the word of a format. -/
def checkFormat (options : List Given) : Except UsageError Unit :=
  match valueOf options "--format" with
  | none => .ok ()
  | some word =>
    match OutputFormat.ofWord? word with
    | some _ => .ok ()
    | none => .error (.badFormat word)

/-- The file named by the first argument, if there is one; there must be no second. -/
def openArgument (request : Request) :
    List String → Except UsageError (Option (String × ByteArray))
  | [] => .ok none
  | path :: extra =>
    match openSource request path with
    | .error e => .error e
    | .ok opened => if extra.isEmpty then .ok (some opened) else .error (.extraArguments extra)

/-- Carries out a subcommand on the opened file or on the text of `--text`, of which exactly one
must be given. -/
def performOn (request : Request) (command : Subcommand) (settings : Settings)
    (opened : Option (String × ByteArray)) (inlineText : Option String) : Reply :=
  match opened, inlineText with
  | some _, some _ => .misused command.page .twoSources
  | none, none => .misused command.page .noSource
  | none, some text => perform request command settings ⟨"<text>", text⟩
  | some (name, bytes), none =>
    match sourceText bytes with
    | some text => perform request command settings ⟨name, text⟩
    | none => .broken .undecodable

/-- Answers the arguments behind a subcommand. -/
def runSubcommand (request : Request) (command : Subcommand) (settings : Settings)
    (args : List String) : Reply :=
  match scan command.page.options true args with
  | .error e => .misused command.page e
  | .ok (options, others) =>
    if given options "--help" then .printed command.page.text
    else
      match checkFormat options with
      | .error e => .misused command.page e
      | .ok () =>
        match openArgument request others with
        | .error e => .misused command.page e
        | .ok opened =>
          match settings.override (updates command options) with
          | .error _ => .broken .badSettings
          | .ok settings =>
            performOn request command settings opened (valueOf options "--text")

/-! ### The program -/

/-- The settings of the environment, with the log level of the options. -/
def settingsOf (request : Request) (options : List Given) : Except SettingsError Settings :=
  match Settings.ofEnvironment request.environment with
  | .error e => .error e
  | .ok settings =>
    let level : Fields :=
      match valueOf options "--log-level" with
      | some name => [("log_level", .str name)]
      | none => []
    (settings.override level).mapError .invalid

/-- The first of `--help` and `--version` that was given is answered at once. -/
def informs (options : List Given) : Option Reply :=
  (options.find? fun o => o.flag == "--help" || o.flag == "--version").map fun o =>
    if o.flag == "--help" then .printed mainPage.text else .printed versionText

/-- Refuses a word that is no subcommand. A word that looks like an option is read as one first. -/
def refuse (args : List String) (name : String) : Reply :=
  let refused := Reply.misused mainPage (.noSuchCommand name)
  if name.startsWith "-" then
    match scan mainPage.options false args with
    | .error e => .misused mainPage e
    | .ok (options, _) => (informs options).getD refused
  else refused

/-- Answers a request. -/
def execute (request : Request) : Reply :=
  if request.args.isEmpty then .failed 2 mainPage.text
  else
    match scan mainPage.options false request.args with
    | .error e => .misused mainPage e
    | .ok (options, others) =>
      match informs options with
      | some reply => reply
      | none =>
        match others with
        | [] => .misused mainPage .missingCommand
        | name :: args =>
          match Subcommand.ofWord? name with
          | none => refuse others name
          | some command =>
            match settingsOf request options with
            | .error e => .misused mainPage (.badSettings e)
            | .ok settings => runSubcommand request command settings args

end TagScript.Console
