import TagScript.Console

/-!
# The program

`main` gathers what a request needs and prints the reply. Programs are not started here: the
commands of a run are written to standard output as shell lines, for the calling shell to carry out.
-/

open TagScript TagScript.Console

/-- The environment variables of the settings. -/
def settingVariables : List String :=
  ["TAGSHELL_LOG_LEVEL", "TAGSHELL_OUTPUT_FORMAT", "TAGSHELL_DRY_RUN", "TAGSHELL_STOP_ON_ERROR"]

/-- Reads a file. -/
def readBytes (path : String) : IO (Except OpenError ByteArray) := do
  try
    return .ok (← IO.FS.readBinFile path)
  catch
    | .noFileOrDirectory .. => return .error .missing
    | _ => return .error .directory

/-- Answers the arguments of a call. -/
def main (args : List String) : IO UInt32 := do
  let environment ← settingVariables.filterMapM fun variableName => do
    return (← IO.getEnv variableName).map fun value => (variableName, value)
  let files ← args.mapM fun path => return (path, ← readBytes path)
  let stdin ← if args.contains "-" then (← IO.getStdin).readToEnd else pure ""
  let openFile := fun path => (files.lookup path).getD (.error .missing)
  let reply := execute ⟨args, stdin, environment, openFile, []⟩
  IO.print reply.stdout
  IO.eprint reply.stderr
  for call in reply.calls do
    IO.println (Text.ShellWord.join call)
  return UInt32.ofNat (reply.status % 256).toNat
