import TagScript.Console
import TagScript.Proofs.OneLine
import TagScript.Proofs.Switches

/-!
# How requests are answered

* `Asks` says of a request that it calls a subcommand on a source, and under which settings the
  subcommand works. `execute_of_asks`: the request is then answered by carrying out the subcommand.
  `asks_textLine`: there is such a request for every text. `stdout_perform_of_parse`: what it prints
  if the source is read.
* `AsksToRun` says of a request that it calls `run` on a text, with or without its two flags.
  `asks_of_asksToRun`: whether the run is dry and whether it stops on errors is then said by these
  flags and by the environment. `asksToRun_runLine`: every text can be asked for.
* `splitOn_unlines`: what is printed line by line is split into these lines.
-/

namespace TagScript.Console

open Text

variable {request : Request} {command : Subcommand} {settings : Settings} {source : Source}
  {options : List Given} {args others : List String}

/-! ### Sources -/

/-- The arguments behind a subcommand name one source that can be read: a file or standard input, or
the text of `--text`. -/
inductive Supplies (request : Request) (options : List Given) : List String → Source → Prop
  | inlineText {text : String} (htext : valueOf options "--text" = some text) :
      Supplies request options [] ⟨"<text>", text⟩
  | file {path name text : String} {bytes : ByteArray} (hinline : valueOf options "--text" = none)
      (hopen : openSource request path = .ok (name, bytes)) (htext : sourceText bytes = some text) :
      Supplies request options [path] ⟨name, text⟩

/-- A subcommand is carried out on the source that is supplied. -/
theorem performOn_of_supplies (h : Supplies request options others source) :
    ∃ opened, openArgument request others = .ok opened ∧ ∀ command settings,
      performOn request command settings opened (valueOf options "--text") =
        perform request command settings source := by
  cases h with
  | inlineText htext => exact ⟨none, rfl, fun _ _ => by rw [htext, performOn]⟩
  | @file path name text bytes hinline hopen htext =>
    refine ⟨some (name, bytes), by simp [openArgument, hopen], fun _ _ => ?_⟩
    simp only [hinline, performOn, htext]

/-! ### Options -/

theorem withOption_eq_ok {flag : String} {value : Option String}
    {scanned : Except UsageError (List Given × List String)}
    (h : withOption flag value scanned = .ok (options, others)) :
    ∃ rest, scanned = .ok (rest, others) ∧ options = ⟨flag, value⟩ :: rest := by
  unfold withOption at h
  split at h <;> cases h
  exact ⟨_, rfl, rfl⟩

theorem withArgument_eq_ok {arg : String}
    {scanned : Except UsageError (List Given × List String)}
    (h : withArgument arg scanned = .ok (options, others)) :
    ∃ rest, scanned = .ok (options, rest) ∧ others = arg :: rest := by
  unfold withArgument at h
  split at h <;> cases h
  exact ⟨_, rfl, rfl⟩

/-- Options that were scanned are options of the command. -/
theorem flag_mem_of_scan {specs : List OptionSpec} {mixed : Bool}
    (h : scan specs mixed args = .ok (options, others)) :
    ∀ option ∈ options, option.flag ∈ specs.map (·.flag) := by
  -- An option is taken up only where it was found among those of the command.
  have hfound : ∀ flag spec, specs.find? (·.flag == flag) = some spec →
      flag ∈ specs.map (·.flag) := by
    intro flag spec hspec
    have hflag := List.find?_some hspec
    obtain rfl : spec.flag = flag := beq_iff_eq.1 hflag
    exact List.mem_map_of_mem (List.mem_of_find?_eq_some hspec)
  fun_induction scan specs mixed args generalizing options others with
  | case1 | case2 | case10 =>
    cases h
    simp
  | case3 | case5 | case7 => cases h
  | case4 _ _ _ _ _ _ hspec _ _ _ ih | case6 _ _ _ _ _ hspec _ _ _ _ ih
  | case8 _ _ _ _ _ _ _ _ hspec _ _ ih =>
    obtain ⟨rest, hrest, rfl⟩ := withOption_eq_ok h
    exact List.forall_mem_cons.2 ⟨hfound _ _ hspec, ih hrest⟩
  | case9 _ _ _ _ _ ih =>
    obtain ⟨rest, hrest, -⟩ := withArgument_eq_ok h
    exact ih hrest

/-- No format is given to `run`. -/
theorem checkFormat_of_scan_run
    (h : scan Subcommand.run.page.options true args = .ok (options, others)) :
    checkFormat options = .ok () := by
  have hformat : options.reverse.find? (·.flag == "--format") = none := by
    rw [List.find?_eq_none]
    intro option hoption hflag
    have hmem := flag_mem_of_scan h option (List.mem_reverse.1 hoption)
    rw [beq_iff_eq.1 hflag] at hmem
    simp [Subcommand.page, Subcommand.options, helpOption] at hmem
  rw [checkFormat, valueOf, hformat]
  rfl

theorem settingsOf_nil (h : Settings.ofEnvironment request.environment = .ok settings) :
    settingsOf request [] = .ok settings := by
  simp only [settingsOf, h, valueOf, List.reverse_nil, List.find?_nil, Option.bind_none,
    Settings.override_nil]
  rfl

/-- The log level is the only setting that an option before the subcommand can change. -/
theorem switches_of_settingsOf (h : settingsOf request options = .ok settings) :
    (settings.dryRun = true ↔ Settings.Turns request.environment "TAGSHELL_DRY_RUN" true) ∧
      (settings.stopOnError = false ↔
        Settings.Turns request.environment "TAGSHELL_STOP_ON_ERROR" false) := by
  unfold settingsOf at h
  rcases hbase : Settings.ofEnvironment request.environment with e | base <;>
    simp only [hbase] at h
  · cases h
  obtain ⟨hdry, hstop⟩ := Settings.switches_of_environment hbase
  rw [← hdry, ← hstop]
  cases hlevel : valueOf options "--log-level" with
  | none =>
    simp only [hlevel, Settings.override_nil] at h
    cases h
    exact ⟨Iff.rfl, Iff.rfl⟩
  | some name =>
    simp only [hlevel] at h
    rcases hover : base.override [("log_level", .str name)] with issues | s <;>
      rw [hover] at h <;> cases h
    obtain ⟨hsameDry, hsameStop⟩ := Settings.switches_of_override_level hover
    rw [hsameDry, hsameStop]
    exact ⟨Iff.rfl, Iff.rfl⟩

/-! ### Requests -/

/-- The request calls the subcommand on the source and asks for no help before it. The settings are
those of the environment and of the options before the subcommand, changed by the options behind
it. -/
inductive Asks (request : Request) (command : Subcommand) (settings : Settings) (source : Source) :
    Prop
  | intro {front options : List Given} {args others : List String} {base : Settings}
      (hfront : scan mainPage.options false request.args = .ok (front, command.word :: args))
      (hinforms : informs front = none) (hbase : settingsOf request front = .ok base)
      (hoptions : scan command.page.options true args = .ok (options, others))
      (hhelp : given options "--help" = false) (hformat : checkFormat options = .ok ())
      (hsettings : base.override (updates command options) = .ok settings)
      (hsupplies : Supplies request options others source) :
      Asks request command settings source

theorem Subcommand.ofWord?_word (command : Subcommand) : ofWord? command.word = some command := by
  cases command <;> decide

theorem execute_of_asks (h : Asks request command settings source) :
    execute request = perform request command settings source := by
  obtain @⟨front, options, args, others, base, hfront, hinforms, hbase, hoptions, hhelp, hformat,
    hsettings, hsupplies⟩ := h
  obtain ⟨opened, hopened, hperform⟩ := performOn_of_supplies hsupplies
  have hargs : request.args.isEmpty = false := by
    cases hargs : request.args with
    | nil => simp [hargs, scan] at hfront
    | cons first rest => rfl
  have hexecute : execute request = runSubcommand request command base args := by
    simp only [execute, hargs, hfront, hinforms, command.ofWord?_word, hbase]
    rfl
  rw [hexecute]
  simp only [runSubcommand, hoptions, hhelp, Bool.false_eq_true, if_false, hformat, hopened,
    hsettings, hperform]

/-- In an environment that gives settings, a subcommand can be called on every text. -/
theorem asks_textLine {environment : Settings.Environment}
    (h : Settings.ofEnvironment environment = .ok settings) (command : Subcommand) (text : String)
    (stdin : String) (openFile : String → Except OpenError ByteArray) (script : List Attempt) :
    Asks ⟨[command.word, "--text", text], stdin, environment, openFile, script⟩ command settings
      ⟨"<text>", text⟩ := by
  have hfront : scan mainPage.options false [command.word, "--text", text] =
      .ok ([], [command.word, "--text", text]) := by
    cases command <;> simp [scan, isOption, Subcommand.word]
  have hoptions : scan command.page.options true ["--text", text] =
      .ok ([⟨"--text", some text⟩], []) := by
    cases command <;>
      simp [scan, isOption, splitFlag, Subcommand.page, Subcommand.options, helpOption, withOption]
  have hupdates : updates command [⟨"--text", some text⟩] = [] := by
    cases command <;> simp [updates, valueOf, given]
  refine .intro hfront rfl (settingsOf_nil h) hoptions ?_ ?_ ?_ (.inlineText ?_)
  · simp [given]
  · simp [checkFormat, valueOf]
  · rw [hupdates, Settings.override_nil]
  · simp [valueOf]

/-- On a source that is read, a subcommand prints what it prints of the document. -/
theorem stdout_perform_of_parse (request : Request) (command : Subcommand) (settings : Settings)
    (source : Source) {sourceName : Option String} {d : Document}
    (h : Document.parse source.text sourceName = .ok d) :
    (perform request command settings source).stdout =
      match command with
      | .parse => unlines (treeLines d)
      | .commands => (printCommands settings d).stdout
      | .run => (runDocument settings request.script d).stdout := by
  obtain ⟨p, hread⟩ := Document.parse_eq_ok_iff_tryParse.1 h
  simp only [perform, withDocument, hread]
  cases command <;> rfl

/-! ### Asking for a run -/

/-- The request calls `run` on the text, with `--dry-run` and `--keep-going` as told, and asks for
no help before it. -/
inductive AsksToRun (request : Request) (text : String) (dry keepGoing : Bool) : Prop
  | intro {front options : List Given} {args others : List String} {settings : Settings}
      {source : Source}
      (hfront : scan mainPage.options false request.args = .ok (front, "run" :: args))
      (hinforms : informs front = none) (hsettings : settingsOf request front = .ok settings)
      (hoptions : scan Subcommand.run.page.options true args = .ok (options, others))
      (hhelp : given options "--help" = false) (hdry : given options "--dry-run" = dry)
      (hkeepGoing : given options "--keep-going" = keepGoing)
      (hsupplies : Supplies request options others source) (htext : source.text = text) :
      AsksToRun request text dry keepGoing

/-- Arguments that ask for a run of the text. -/
def runLine (dry keepGoing : Bool) (text : String) : List String :=
  "run" :: ((if dry then ["--dry-run"] else []) ++
    (if keepGoing then ["--keep-going"] else []) ++ ["--text", text])

/-- A request for a run is dry or goes on behind errors if the options or the environment say so. -/
theorem asks_of_asksToRun {text : String} {dry keepGoing : Bool}
    (h : AsksToRun request text dry keepGoing) :
    ∃ settings name, Asks request .run settings ⟨name, text⟩ ∧
      (settings.dryRun = true ↔
        dry = true ∨ Settings.Turns request.environment "TAGSHELL_DRY_RUN" true) ∧
      (settings.stopOnError = true ↔ keepGoing = false ∧
        ¬ Settings.Turns request.environment "TAGSHELL_STOP_ON_ERROR" false) := by
  obtain @⟨front, options, args, others, base, source, hfront, hinforms, hbase, hoptions, hhelp,
    rfl, rfl, hsupplies, rfl⟩ := h
  obtain ⟨hdry, hstop⟩ := switches_of_settingsOf hbase
  have hsettings := Settings.override_flags base (given options "--dry-run")
    (given options "--keep-going")
  refine ⟨_, source.name, .intro hfront hinforms hbase hoptions hhelp
    (checkFormat_of_scan_run hoptions) hsettings hsupplies, ?_, ?_⟩
  · rw [← hdry, Bool.or_eq_true, or_comm]
  · rw [← hstop, Bool.and_eq_true, Bool.not_eq_true', Bool.not_eq_false, and_comm]

/-- In an environment that gives settings, every text can be asked for. -/
theorem asksToRun_runLine {environment : Settings.Environment}
    (h : Settings.ofEnvironment environment = .ok settings) (text : String) (dry keepGoing : Bool)
    (stdin : String) (openFile : String → Except OpenError ByteArray) (script : List Attempt) :
    AsksToRun ⟨runLine dry keepGoing text, stdin, environment, openFile, script⟩ text dry
      keepGoing := by
  have hfront : scan mainPage.options false (runLine dry keepGoing text) =
      .ok ([], runLine dry keepGoing text) := by
    simp [runLine, scan, isOption]
  have hoptions : scan Subcommand.run.page.options true ((if dry then ["--dry-run"] else []) ++
      (if keepGoing then ["--keep-going"] else []) ++ ["--text", text]) =
      .ok ((if dry then [⟨"--dry-run", none⟩] else []) ++
        (if keepGoing then [⟨"--keep-going", none⟩] else []) ++ [⟨"--text", some text⟩], []) := by
    cases dry <;> cases keepGoing <;>
      simp [scan, isOption, splitFlag, Subcommand.page, Subcommand.options, helpOption, withOption]
  refine .intro hfront rfl (settingsOf_nil h) hoptions ?_ ?_ ?_ (.inlineText ?_) rfl
  · cases dry <;> cases keepGoing <;> simp [given]
  · cases dry <;> cases keepGoing <;> simp [given]
  · cases dry <;> cases keepGoing <;> simp [given]
  · simp [valueOf]

/-- A dry run shows the commands and calls none. -/
theorem runDocument_of_dry (hdry : settings.dryRun = true) (script : List Attempt) (d : Document) :
    (runDocument settings script d).calls = [] ∧
      (runDocument settings script d).stdout = unlines (d.project.map (·.line)) ∧
      (runDocument settings script d).status = 0 ∧
      (runDocument settings script d).crash = none := by
  simp [runDocument, Command.runAll, hdry, exitStatus]

/-! ### Lines of output -/

theorem unlines_eq_intercalate (ls : List String) : unlines ls = "\n".intercalate (ls ++ [""]) := by
  induction ls with
  | nil => rfl
  | cons s ls ih =>
    have hcons : unlines (s :: ls) = s ++ "\n" ++ unlines ls := by
      rw [← String.toList_inj]
      simp [unlines]
    rw [hcons, ih, List.cons_append, String.intercalate_cons_of_ne_nil (by simp)]

/-- Printed lines are found between the line feeds; behind the last line feed nothing stands. -/
theorem splitOn_unlines {ls : List String} (h : ∀ s ∈ ls, OneLine s) :
    (unlines ls).toList.splitOn '\n' = ls.map String.toList ++ [[]] := by
  have hall : ∀ s ∈ ls ++ [""], OneLine s := by
    intro s hs
    rcases List.mem_append.1 hs with hs | hs
    · exact h s hs
    · obtain rfl : s = "" := by simpa using hs
      decide
  rw [unlines_eq_intercalate, splitOn_intercalate rfl (by simp) hall, List.map_append]
  rfl

end TagScript.Console
