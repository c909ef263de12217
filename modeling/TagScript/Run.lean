import TagScript.Command

/-!
# Running commands

Programs are started outside; here their ends are given by a script of attempts.

* `Attempt` is what comes of starting a program.
* `Run` records the calls made, the log and the exit codes or the error that ended the run.
* `Command.runAll` runs commands in order, or only notes them (`Command.dryRun_eq`).
-/

namespace TagScript

/-- What comes of starting a program. -/
inductive Attempt where
  | exited (code : Int)
  | notFound
  | permissionDenied
  | systemError
deriving DecidableEq, Repr

/-- Why a run ended early. -/
inductive RunError where
  /-- The program could not be started. -/
  | cannotRun (program reason : String)
  /-- The system failed in another way. -/
  | systemError
deriving DecidableEq, Repr

/-- The error in words. -/
def RunError.message : RunError → String
  | .cannotRun program reason => s!"Cannot run '{program}': {reason}"
  | .systemError => "os error"

/-- What was done in a run. -/
structure Run where
  result : Except RunError (List Int)
  calls : List (List String)
  log : List Log.Entry

namespace Run

/-- A run that ends with an error. -/
def failed (error : RunError) (call : List String) (log : List Log.Entry) : Run :=
  ⟨.error error, [call], log⟩

/-- A run that begins with a command of the given code, calls and log entries. -/
def after (code : Int) (calls : List (List String)) (log : List Log.Entry) (rest : Run) : Run :=
  ⟨rest.result.map (code :: ·), calls ++ rest.calls, log ++ rest.log⟩

/-- A run in which nothing more happens. -/
def done : Run := ⟨.ok [], [], []⟩

end Run

namespace Command

/-- The log entry before a command is run. -/
def startNote (c : Command) : Log.Entry := ⟨.info, .runner, s!"Running: {c.line}"⟩

/-- The log entry of a command that is only shown. -/
def dryNote (c : Command) : Log.Entry := ⟨.info, .runner, s!"Dry run: {c.line}"⟩

/-- The log entries of a command that ended with the given code. -/
def endNotes (c : Command) (code : Int) : List Log.Entry :=
  if code = 0 then []
  else [⟨.warning, .runner, s!"Command {c.line} exited with status {code}"⟩]

/-- The log entry of a run that stops after a failed command. -/
def stopNote (c : Command) : Log.Entry :=
  ⟨.warning, .runner, s!"Stopping after failed command {c.line}"⟩

/-- Shows commands without running them. -/
def dryRun : List Command → Run
  | [] => .done
  | c :: cs => (dryRun cs).after 0 [] [c.dryNote]

/-- A dry run notes each command and does nothing else. -/
theorem dryRun_eq (cs : List Command) :
    dryRun cs = ⟨.ok (List.replicate cs.length 0), [], cs.map dryNote⟩ := by
  induction cs with
  | nil => rfl
  | cons c cs ih =>
    rw [dryRun, ih]
    rfl

@[simp] theorem dryRun_calls (cs : List Command) : (dryRun cs).calls = [] := by
  rw [dryRun_eq]

@[simp] theorem dryRun_result (cs : List Command) :
    (dryRun cs).result = .ok (List.replicate cs.length 0) := by
  rw [dryRun_eq]

/-- Runs commands in order. The n-th call meets the n-th attempt of the script, and ends with code 0
once the script is used up. A program that cannot be started ends the run; so does one with a code
other than 0, if the run is to stop on errors. -/
def execute (stopOnError : Bool) : List Command → List Attempt → Run
  | [], _ => .done
  | c :: cs, script =>
    let program := c.program.text
    match script.head?.getD (.exited 0) with
    | .notFound => .failed (.cannotRun program "program not found") c.argv [c.startNote]
    | .permissionDenied => .failed (.cannotRun program "permission denied") c.argv [c.startNote]
    | .systemError => .failed .systemError c.argv [c.startNote]
    | .exited code =>
      let log := c.startNote :: c.endNotes code
      if code ≠ 0 && stopOnError then .after code [c.argv] (log ++ [c.stopNote]) .done
      else (execute stopOnError cs script.tail).after code [c.argv] log

/-- Runs commands in order, or only shows them. -/
def runAll (dry stopOnError : Bool) (cs : List Command) (script : List Attempt) : Run :=
  if dry then dryRun cs else execute stopOnError cs script

end Command

end TagScript
