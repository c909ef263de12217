import TagScript.Console.Options

/-!
# Help and usage

* `Subcommand` lists the things the program does.
* `Page` is the help page of the program or of a subcommand, `Page.text` lays it out.
* `Page.complaint` is how a usage error is reported.
-/

namespace TagScript.Console

/-- What the program can do with a source. -/
inductive Subcommand where
  | parse
  | commands
  | run
deriving DecidableEq, Repr

namespace Subcommand

/-- The word of a subcommand. -/
def word : Subcommand → String
  | parse => "parse"
  | commands => "commands"
  | run => "run"

/-- The subcommands in the order of help. -/
def all : List Subcommand := [commands, parse, run]

/-- The subcommand of a word. -/
def ofWord? (s : String) : Option Subcommand := all.find? (·.word == s)

/-- What a subcommand does. -/
def about : Subcommand → String
  | parse => "Print the element tree of SOURCE."
  | commands => "Print the commands projected from SOURCE."
  | run => "Run the commands projected from SOURCE, in order."

end Subcommand

/-- The help page of a command. -/
structure Page where
  /-- The words that call the command. -/
  call : String
  /-- What follows them. -/
  arguments : String
  about : String
  options : List OptionSpec
  subcommands : List (String × String)

namespace Page

/-- A text and a remark in two columns, the first of the given width. -/
def row (width : Nat) (entry : String × String) : String :=
  let gap := List.replicate (width - entry.1.length) ' '
  "  " ++ entry.1 ++ String.ofList gap ++ "  " ++ entry.2

/-- Rows under a heading, set off by an empty line; nothing if there are none. -/
def table (heading : String) (entries : List (String × String)) : List String :=
  if entries.isEmpty then []
  else
    let width := (entries.map (·.1.length)).foldl max 0
    ["", heading] ++ entries.map (row width)

/-- The line that shows how the command is called. -/
def usage (p : Page) : String := s!"Usage: {p.call} {p.arguments}"

/-- An option with its value, as help shows it. -/
def optionEntry (o : OptionSpec) : String × String :=
  (match o.value with
    | some value => o.flag ++ " " ++ value
    | none => o.flag, o.help)

/-- The help page as text. -/
def text (p : Page) : String :=
  "\n".intercalate
    ([p.usage, "", "  " ++ p.about] ++ table "Options:" (p.options.map optionEntry) ++
      table "Commands:" p.subcommands) ++ "\n"

/-- The report of a usage error. -/
def complaint (p : Page) (e : UsageError) : String :=
  let error := s!"Error: {e.message}\n"
  if e.standsAlone then error
  else s!"{p.usage}\nTry '{p.call} --help' for help.\n\n" ++ error

end Page

/-! ### The pages of the program -/

/-- The name of the program. -/
def programName : String := "tagshell"

/-- What `--version` prints. -/
def versionText : String := programName ++ ", version 0.1.0\n"

/-- The option that every command has. -/
def helpOption : OptionSpec := ⟨"--help", none, "Show this message and exit."⟩

/-- The page of the program itself. -/
def mainPage : Page where
  call := programName
  arguments := "[OPTIONS] COMMAND [ARGS]..."
  about := "Parse tag markup into commands and run them."
  options :=
    [⟨"--version", none, "Show the version and exit."⟩,
     ⟨"--log-level", some "TEXT", "Logging level (overrides TAGSHELL_LOG_LEVEL)."⟩,
     helpOption]
  subcommands := Subcommand.all.map fun c => (c.word, c.about)

/-- The options that only one subcommand has. -/
def Subcommand.options : Subcommand → List OptionSpec
  | .parse => []
  | .commands =>
    [⟨"--format", some "[text|json]", "Output format (overrides TAGSHELL_OUTPUT_FORMAT)."⟩]
  | .run =>
    [⟨"--dry-run", none, "Print commands instead of running them."⟩,
     ⟨"--keep-going", none, "Continue after a command fails."⟩]

/-- The page of a subcommand. -/
def Subcommand.page (c : Subcommand) : Page where
  call := programName ++ " " ++ c.word
  arguments := "[OPTIONS] [SOURCE]"
  about := c.about
  options :=
    ⟨"--text", some "TEXT", "Parse this markup instead of a file."⟩ :: c.options ++ [helpOption]
  subcommands := []

end TagScript.Console
