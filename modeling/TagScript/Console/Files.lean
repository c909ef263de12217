import TagScript.Console.Options

/-!
# A directory of files

* `Directory` is a list of files by name, in an otherwise empty working directory.
* `Directory.openFile` finds the file of a path.
-/

namespace TagScript.Console

/-- Files by name. -/
abbrev Directory := List (String × ByteArray)

/-- The steps of a path; a single dot stays where it is. -/
def pathSteps (path : String) : List String :=
  (path.splitOn "/").filter fun step => step ≠ "" && step ≠ "."

/-- The path names a directory, whatever its last step is. -/
def endsInSlash (path : String) : Bool := path.endsWith "/" || path.endsWith "/."

/-- The content of the file at a path. -/
def Directory.openFile (files : Directory) (path : String) : Except OpenError ByteArray :=
  let steps := pathSteps path
  if path.isEmpty then .error .missing
  else if steps.all (· == "..") then .error .directory
  else
    match files.find? fun f => pathSteps f.1 == steps with
    | some f => if endsInSlash path then .error .notDirectory else .ok f.2
    | none =>
      if files.any fun f => steps.isPrefixOf (pathSteps f.1) then .error .directory
      else if files.any fun f => (pathSteps f.1).isPrefixOf steps then .error .notDirectory
      else .error .missing

end TagScript.Console
