import TagScript.Proofs.Execution
import TagScript.Proofs.FailureTree
import TagScript.Proofs.ShellWords

/-!
# What running a document comes to

* `Ran` says what the calls and the exit status of a run tell about each other: how many of the
  commands were called, why not more, and where the status comes from.
* `run_status_and_calls` says what a request for a run comes to: nothing is called for a text that
  is not read or in a dry run, and else the run stops where it should and ends with the right status.
-/

namespace TagScript.Console

open TagScript.Attempt

/-! ### The status of codes -/

theorem exitStatus_eq_zero_iff {code : Int} : exitStatus code = 0 ↔ code = 0 := by
  unfold exitStatus
  split <;> omega

/-- The first code other than 0 is found behind any number of zeros. -/
theorem headD_filter_of_first {codes : List Int} {i : Nat} {code : Int} (hi : codes[i]? = some code)
    (hcode : code ≠ 0) (hbefore : ∀ j < i, codes[j]? = some 0) :
    (codes.filter (· ≠ 0)).headD 0 = code := by
  induction i generalizing codes with
  | zero =>
    cases codes with
    | nil => simp at hi
    | cons first codes =>
      obtain rfl : first = code := by simpa using hi
      simp [hcode]
  | succ i ih =>
    cases codes with
    | nil => simp at hi
    | cons first codes =>
      obtain rfl : first = 0 := by simpa using hbefore 0 (Nat.succ_pos i)
      have hrest : (codes.filter (· ≠ 0)).headD 0 = code :=
        ih (by simpa using hi) fun j hj => by simpa using hbefore (j + 1) (by omega)
      simpa using hrest

/-- There is no code but 0 just if all codes are 0. -/
theorem headD_filter_eq_zero_iff {codes : List Int} :
    (codes.filter (· ≠ 0)).headD 0 = 0 ↔ ∀ code ∈ codes, code = 0 := by
  induction codes with
  | nil => simp
  | cons first codes ih =>
    by_cases hfirst : first = 0
    · simpa [hfirst] using ih
    · simp [hfirst]

/-! ### Runs seen from outside -/

/-- The reply comes from a run that called the first `n` of the commands. -/
structure Ran (stopOnError : Bool) (commands : List Command) (script : List Attempt) (n : Nat)
    (reply : Reply) : Prop where
  le_length : n ≤ commands.length
  calls : reply.calls = (commands.take n).map Command.argv
  /-- The status is 0 just if every command was called and ended with 0. -/
  status_eq_zero : reply.status = 0 ↔ n = commands.length ∧ ∀ i < n, nth script i = .exited 0
  /-- A program that cannot be started is the last one called. -/
  unstartable : ∀ i < n, nth script i = .notFound ∨ nth script i = .permissionDenied →
    n = i + 1 ∧ reply.status = 1
  /-- If all programs were started, the first code other than 0 is the status; death by a signal
  counts from 128 on. -/
  first_failure : (∀ i < n, ∃ code, nth script i = .exited code) →
    ∀ i < n, ∀ code, nth script i = .exited code → code ≠ 0 → (∀ j < i, nth script j = .exited 0) →
      reply.status = if code < 0 then 128 + -code else code
  /-- If the run is to stop on errors, no call follows a code other than 0. -/
  stops : stopOnError = true → ∀ i < n, ∀ code, nth script i = .exited code → code ≠ 0 → n = i + 1
  /-- Commands are left out only behind a call that ends the run. -/
  goes_on : n < commands.length → ∃ i, n = i + 1 ∧ (nth script i).Ends stopOnError

variable {settings : Settings} {source : Source} {stopOnError : Bool} {commands : List Command}
  {script : List Attempt} {d : Document} {codes : List Int} {n : Nat}

/-- A run in which every program was started ends with the status of its codes. -/
theorem ran_of_codes {reply : Reply} {run : Run} (h : run.Traces stopOnError commands script n)
    (hresult : run.result = .ok codes) (hcalls : reply.calls = run.calls)
    (hstatus : reply.status = exitStatus ((codes.filter (· ≠ 0)).headD 0)) :
    Ran stopOnError commands script n reply := by
  have hmade := (h.result_ok codes).1 hresult
  have hstarted : ∀ i < n, ∃ code, nth script i = .exited code := by
    intro i hi
    have hlt : i < codes.length := by rwa [length_of_made hmade]
    exact ⟨codes[i], (getElem?_of_made hmade hi).1 (List.getElem?_eq_getElem hlt)⟩
  refine ⟨h.le_length, by rw [hcalls, h.calls], ?_, ?_, ?_, ?_, h.ends⟩
  · rw [hstatus, exitStatus_eq_zero_iff, headD_filter_eq_zero_iff, forall_zero_iff_of_made hmade]
    exact ⟨fun hzero => ⟨h.eq_length_of_zero hzero, hzero⟩, And.right⟩
  · intro i hi hfailed
    obtain ⟨code, hcode⟩ := hstarted i hi
    simp [hcode] at hfailed
  · intro _ i hi code hcode hne hbefore
    -- The codes before it are 0, so it is the first that the filter keeps.
    have hfirst := headD_filter_of_first ((getElem?_of_made hmade hi).2 hcode) hne fun j hj =>
      (getElem?_of_made hmade (by omega)).2 (hbefore j hj)
    rw [hstatus, hfirst]
    rfl
  · rintro rfl i hi code hcode hne
    exact h.eq_succ_of_ends hi (by rw [hcode]; exact ⟨hne, rfl⟩)

/-- A run in which a program could not be started ends with it, and with status 1. -/
theorem ran_of_error {reply : Reply} {run : Run} {e : RunError}
    (h : run.Traces stopOnError commands script n) (hresult : run.result = .error e)
    (hcalls : reply.calls = run.calls) (hstatus : reply.status = 1) :
    Ran stopOnError commands script n reply := by
  obtain ⟨last, c, rfl, -, herror⟩ := h.result_error e hresult
  have hlast : ∀ code, nth script last ≠ .exited code := by
    intro code hcode
    rw [hcode] at herror
    cases herror
  refine ⟨h.le_length, by rw [hcalls, h.calls], ?_, ?_, ?_, ?_, h.ends⟩
  · constructor
    · intro hzero
      omega
    · rintro ⟨-, hzero⟩
      exact absurd (hzero last (Nat.lt_succ_self last)) (hlast 0)
  · intro i hi hfailed
    refine ⟨h.eq_succ_of_ends hi ?_, hstatus⟩
    rcases hfailed with hfailed | hfailed <;> rw [hfailed] <;> exact trivial
  · intro hstarted
    obtain ⟨code, hcode⟩ := hstarted last (Nat.lt_succ_self last)
    exact absurd hcode (hlast code)
  · rintro rfl i hi code hcode hne
    exact h.eq_succ_of_ends hi (by rw [hcode]; exact ⟨hne, rfl⟩)

/-- A text before the error output changes nothing about the run. -/
theorem Ran.behind {reply : Reply} (h : Ran stopOnError commands script n reply) (log : String) :
    Ran stopOnError commands script n (reply.behind log) :=
  ⟨h.le_length, h.calls, h.status_eq_zero, h.unstartable, h.first_failure, h.stops, h.goes_on⟩

/-! ### Running a document -/

/-- A run that is not dry calls some of the commands, and its status tells how they ended. -/
theorem ran_runDocument (hdry : settings.dryRun = false) (script : List Attempt) (d : Document) :
    ∃ n, Ran settings.stopOnError d.project script n (runDocument settings script d) := by
  obtain ⟨n, htraces⟩ := Command.execute_traces settings.stopOnError d.project script
  refine ⟨n, ?_⟩
  cases hresult : (Command.execute settings.stopOnError d.project script).result with
  | ok codes =>
    refine ran_of_codes htraces hresult ?_ ?_ <;>
      simp [runDocument, Command.runAll, hdry, hresult]
  | error e =>
    refine ran_of_error htraces hresult ?_ ?_ <;> cases e <;>
      simp [runDocument, Command.runAll, hdry, hresult]

/-- Running a document breaks the program only if the system fails. -/
theorem crash_runDocument (settings : Settings) (hscript : .systemError ∉ script) (d : Document) :
    (runDocument settings script d).crash = none := by
  cases hdry : settings.dryRun with
  | true => exact (runDocument_of_dry hdry script d).2.2.2
  | false =>
    obtain ⟨n, htraces⟩ := Command.execute_traces settings.stopOnError d.project script
    cases hresult : (Command.execute settings.stopOnError d.project script).result with
    | ok codes => simp [runDocument, Command.runAll, hdry, hresult]
    | error e =>
      obtain ⟨last, c, -, -, herror⟩ := htraces.result_error e hresult
      cases e with
      | cannotRun program reason => simp [runDocument, Command.runAll, hdry, hresult]
      | systemError => exact absurd herror (error?_nth_ne_systemError hscript last _)

/-! ### The answer -/

/-- For a text that is not read nothing is called. -/
theorem perform_of_not_read (request : Request) (command : Subcommand) (settings : Settings)
    (source : Source) (h : ¬ ∃ p d, Document.tryParse source.text = .ok (.success p d)) :
    (perform request command settings source).calls = [] ∧
      (perform request command settings source).status = 1 ∧
      (perform request command settings source).crash = none := by
  obtain ⟨outcome, houtcome⟩ : ∃ outcome, Document.tryParse source.text = .ok outcome :=
    Document.read_total Grammar.nestingLimit source.text
  cases outcome with
  | success p d => exact absurd ⟨p, d, houtcome⟩ h
  | failure p failed => simp [perform, withDocument, houtcome, Reply.failed]

/-- A document that is read is run, behind what its reading logs. -/
theorem perform_run_of_read (request : Request) (settings : Settings) {p : Position}
    (h : Document.tryParse source.text = .ok (.success p d)) :
    perform request .run settings source =
      (runDocument settings request.script d).behind
        (logText settings (Document.notes (.success p d))) := by
  simp only [perform, withDocument, h]

/-- **What a run of a text comes to.** In an environment that gives settings, any text can be run
with or without the two flags; and whenever a request asks for that, and the system does not fail,
the program does not break. If the text is not read, nothing is called and the status is 1. In a dry
run nothing is called, the commands are printed one in a line and the status is 0. Any other run is
as `Ran` says, and stops on errors unless the flag or the environment says otherwise. -/
theorem run_status_and_calls {environment : Settings.Environment} {settings : Settings}
    (henvironment : Settings.ofEnvironment environment = .ok settings) (text : String)
    (dry keepGoing : Bool) (script : List Attempt) (hscript : .systemError ∉ script) :
    (∀ stdin openFile,
      AsksToRun ⟨runLine dry keepGoing text, stdin, environment, openFile, script⟩ text dry
        keepGoing) ∧
    ∀ request, request.environment = environment → request.script = script →
      AsksToRun request text dry keepGoing →
      (execute request).crash = none ∧
      ((¬ ∃ p d, Document.tryParse text = .ok (.success p d)) →
        (execute request).calls = [] ∧ (execute request).status = 1) ∧
      ∀ p d, Document.tryParse text = .ok (.success p d) →
        (dry = true ∨ Settings.Turns environment "TAGSHELL_DRY_RUN" true →
          (execute request).calls = [] ∧
            PrintsLines (execute request).stdout (d.project.map Command.line) ∧
            ShowsWords (execute request).stdout (d.project.map Command.argv) ∧
            (execute request).status = 0) ∧
        (¬ (dry = true ∨ Settings.Turns environment "TAGSHELL_DRY_RUN" true) →
          ∃ stopOnError n, (stopOnError = true ↔ keepGoing = false ∧
              ¬ Settings.Turns environment "TAGSHELL_STOP_ON_ERROR" false) ∧
            Ran stopOnError d.project script n (execute request)) := by
  refine ⟨fun stdin openFile =>
    asksToRun_runLine henvironment text dry keepGoing stdin openFile script, ?_⟩
  rintro request rfl rfl hasksToRun
  obtain ⟨settings, name, hasks, hdry, hstop⟩ := asks_of_asksToRun hasksToRun
  rw [execute_of_asks hasks, ← hdry]
  by_cases hread : ∃ p d, Document.tryParse text = .ok (.success p d)
  · obtain ⟨p, d, hd⟩ := hread
    rw [perform_run_of_read request settings hd]
    refine ⟨?_, fun hread => absurd ⟨p, d, hd⟩ hread, fun p' d' hd' => ?_⟩
    · exact crash_runDocument settings hscript d
    · rw [hd] at hd'
      cases hd'
      constructor
      · intro hswitch
        obtain ⟨hcalls, hstdout, hstatus, -⟩ := runDocument_of_dry hswitch request.script d
        have hparse : Document.parse text none = .ok d :=
          Document.parse_eq_ok_iff_tryParse.2 ⟨p, hd⟩
        have hlegal := Document.legal_of_parse hparse
        refine ⟨hcalls, ?_, ?_, hstatus⟩ <;> rw [Reply.behind, hstdout]
        · exact printsLines_unlines hlegal
        · exact showsWords_unlines hlegal
      · intro hswitch
        obtain ⟨n, hran⟩ := ran_runDocument (Bool.eq_false_iff.2 hswitch) request.script d
        exact ⟨settings.stopOnError, n, hstop, hran.behind _⟩
  · obtain ⟨hcalls, hstatus, hcrash⟩ := perform_of_not_read request .run settings ⟨name, text⟩ hread
    exact ⟨hcrash, fun _ => ⟨hcalls, hstatus⟩, fun p d hd => absurd ⟨p, d, hd⟩ hread⟩

/-- Three runs of three commands. In an empty environment the second command is killed by signal 9,
so that the third is not called and the status is 137. In an environment that turns dry runs on
nothing is called, though nothing could be started, and the commands are printed. In an environment
that turns stopping on errors off all three are called, and the status is that of the first. -/
theorem runs_killed_dry_and_past_failure :
    let text := "<a> <x/></a> <b/> <c/>"
    let request : Settings.Environment → List Attempt → Request := fun environment script =>
      ⟨runLine false false text, "", environment, fun _ => .error .missing, script⟩
    let killed := request [] [.exited 0, .exited (-9)]
    let dry := request [("TAGSHELL_DRY_RUN", " Yes\n")] [.notFound]
    let past := request [("TAGSHELL_STOP_ON_ERROR", "OFF")] [.exited 3, .exited 0, .exited 4]
    (Settings.ofEnvironment killed.environment = .ok Settings.default ∧
      .systemError ∉ killed.script ∧ AsksToRun killed text false false ∧
      (execute killed).calls = [["a", "x"], ["b"]] ∧ (execute killed).status = 137) ∧
    (Settings.ofEnvironment dry.environment = .ok { Settings.default with dryRun := true } ∧
      .systemError ∉ dry.script ∧ AsksToRun dry text false false ∧
      Settings.Turns dry.environment "TAGSHELL_DRY_RUN" true ∧ (execute dry).calls = [] ∧
      PrintsLines (execute dry).stdout ["a x", "b", "c"] ∧
      ShowsWords (execute dry).stdout [["a", "x"], ["b"], ["c"]] ∧ (execute dry).status = 0) ∧
    Settings.ofEnvironment past.environment = .ok { Settings.default with stopOnError := false } ∧
      .systemError ∉ past.script ∧ AsksToRun past text false false ∧
      Settings.Turns past.environment "TAGSHELL_STOP_ON_ERROR" false ∧
      (execute past).calls = [["a", "x"], ["b"], ["c"]] ∧ (execute past).status = 3 := by
  intro text request killed dry past
  have hview : ((Document.tryParse text).toOption.bind Outcome.value?).map
      (fun d => (d.project.map Command.argv, d.project.map Command.line)) =
        some ([["a", "x"], ["b"], ["c"]], ["a x", "b", "c"]) := by
    decide +kernel
  obtain ⟨p, d, hd, hcommands⟩ := Outcome.exists_of_value? hview
  obtain ⟨hargvs, hlines⟩ := Prod.mk.inj hcommands
  have hlength : d.project.length = 3 := by simpa using congrArg List.length hargvs
  refine ⟨?_, ?_, ?_⟩
  · have hsettings : Settings.ofEnvironment killed.environment = .ok Settings.default := rfl
    have hscript : .systemError ∉ killed.script := by decide
    obtain ⟨hasks, hanswer⟩ := run_status_and_calls hsettings text false false killed.script hscript
    obtain ⟨-, -, hread⟩ := hanswer killed rfl rfl (hasks "" _)
    have hturns : ∀ name side, ¬ Settings.Turns killed.environment name side := by
      rintro name side ⟨given, hgiven, -⟩
      cases hgiven
    obtain ⟨stopOnError, n, hstop, hran⟩ := (hread p d hd).2 (by simp [hturns])
    obtain rfl : stopOnError = true := hstop.2 (by simp [hturns])
    -- The first call does not end the run, and no call follows the second.
    have hlt : 1 < n := by
      rcases Nat.lt_or_ge 1 n with hlt | hge
      · exact hlt
      · obtain ⟨i, rfl, hends⟩ := hran.goes_on (by omega)
        obtain rfl : i = 0 := by omega
        exact absurd rfl hends.1
    obtain rfl : n = 2 := hran.stops rfl 1 hlt (-9) rfl (by decide)
    have hbefore : ∀ i < 1, nth killed.script i = .exited 0 := by
      intro i hi
      obtain rfl : i = 0 := by omega
      rfl
    have hstarted : ∀ i, ∃ code, nth killed.script i = .exited code :=
      exists_code_nth (by simp [killed, request])
    have hstatus := hran.first_failure (fun i _ => hstarted i) 1 hlt (-9) rfl (by decide) hbefore
    have hcalls := hran.calls
    rw [List.map_take, hargvs] at hcalls
    exact ⟨hsettings, hscript, hasks "" _, hcalls, hstatus⟩
  · have hsettings : Settings.ofEnvironment dry.environment =
        .ok { Settings.default with dryRun := true } := by with_unfolding_all rfl
    have hscript : .systemError ∉ dry.script := by decide
    obtain ⟨hasks, hanswer⟩ := run_status_and_calls hsettings text false false dry.script hscript
    obtain ⟨-, -, hread⟩ := hanswer dry rfl rfl (hasks "" _)
    have hturns : Settings.Turns dry.environment "TAGSHELL_DRY_RUN" true :=
      ⟨" Yes\n", rfl, "yes", by decide, [' '], ['Y', 'e', 's'], ['\n'], by decide,
        by simp [Text.Space], by decide⟩
    obtain ⟨hcalls, hprints, hshows, hstatus⟩ := (hread p d hd).1 (.inr hturns)
    rw [hlines] at hprints
    rw [hargvs] at hshows
    exact ⟨hsettings, hscript, hasks "" _, hturns, hcalls, hprints, hshows, hstatus⟩
  · have hsettings : Settings.ofEnvironment past.environment =
        .ok { Settings.default with stopOnError := false } := by with_unfolding_all rfl
    have hscript : .systemError ∉ past.script := by decide
    obtain ⟨hasks, hanswer⟩ := run_status_and_calls hsettings text false false past.script hscript
    obtain ⟨-, -, hread⟩ := hanswer past rfl rfl (hasks "" _)
    have hdry : ¬ Settings.Turns past.environment "TAGSHELL_DRY_RUN" true := by
      rintro ⟨given, hgiven, -⟩
      cases hgiven
    have hturns : Settings.Turns past.environment "TAGSHELL_STOP_ON_ERROR" false :=
      ⟨"OFF", rfl, "off", by decide, [], ['O', 'F', 'F'], [], by decide, by simp, by decide⟩
    obtain ⟨stopOnError, n, hstop, hran⟩ := (hread p d hd).2 (by simp [hdry])
    obtain rfl : stopOnError = false := by simpa [hturns] using hstop
    have hstarted : ∀ i, ∃ code, nth past.script i = .exited code :=
      exists_code_nth (by simp [past, request])
    -- No code ends the run.
    obtain rfl : n = 3 := by
      rcases Nat.lt_or_eq_of_le hran.le_length with hlt | heq
      · obtain ⟨i, -, hends⟩ := hran.goes_on hlt
        obtain ⟨code, hcode⟩ := hstarted i
        rw [hcode] at hends
        exact absurd hends.2 (by decide)
      · rwa [hlength] at heq
    have hstatus := hran.first_failure (fun i _ => hstarted i) 0 (by decide) 3 rfl (by decide)
      (by omega)
    have hcalls := hran.calls
    rw [List.map_take, hargvs] at hcalls
    exact ⟨hsettings, hscript, hasks "" _, hturns, hcalls, hstatus⟩

end TagScript.Console
