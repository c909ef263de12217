import TagScript.Issue
import TagScript.Reading
import TagScript.Text.ShellWord

/-!
# Commands

* `Command` is a program with its arguments; `argv` lists both, `line` writes them as shell words.
* `Command.ofFields` checks data from outside.
* `Document.project` makes a command of every top-level element: its name is the program and the
  names of its children are the arguments.
* `Command.markupAll` writes commands as markup.
-/

namespace TagScript

/-- A program and its arguments. -/
structure Command where
  program : Name
  args : List String
deriving DecidableEq

namespace Command

/-- The program and its arguments. -/
def argv (c : Command) : List String := c.program.text :: c.args

/-- The command as a shell line. -/
def line (c : Command) : String := Text.ShellWord.join c.argv

/-! ### Commands from outside -/

/-- The program of a command, or what is wrong with it. -/
def programOf (fields : Fields) : Except (List Issue) Name :=
  match fields.lookup "program_name" with
  | none => .error [⟨"program_name", none, .missing, .record fields⟩]
  | some (.str s) =>
    if h : s = "" then .error [⟨"program_name", none, .stringTooShort, .str s⟩] else .ok ⟨s, h⟩
  | some d => .error [⟨"program_name", none, .stringType, d⟩]

/-- The arguments in a list, or what is wrong with each, counted from `index`. -/
def argsFrom : Nat → List Datum → Except (List Issue) (List String)
  | _, [] => .ok []
  | index, .str s :: ds => (argsFrom (index + 1) ds).map (s :: ·)
  | index, d :: ds =>
    let issue : Issue := ⟨"args", some index, .stringType, d⟩
    match argsFrom (index + 1) ds with
    | .ok _ => .error [issue]
    | .error issues => .error (issue :: issues)

/-- The arguments of a command, none if they are not given, or what is wrong with them. -/
def argsOf (fields : Fields) : Except (List Issue) (List String) :=
  match fields.lookup "args" with
  | none => .ok []
  | some (.list ds) => argsFrom 0 ds
  | some d => .error [⟨"args", none, .tupleType, d⟩]

/-- The command of the given fields, or every issue with them; other fields do not matter. -/
def ofFields (fields : Fields) : Except (List Issue) Command :=
  match programOf fields, argsOf fields with
  | .ok program, .ok args => .ok ⟨program, args⟩
  | .error first, .error second => .error (first ++ second)
  | .error issues, .ok _ => .error issues
  | .ok _, .error issues => .error issues

/-- Commands cannot be changed: assigning to a field is an issue. -/
def assign (field : String) (value : Datum) : Issue := ⟨field, none, .frozenInstance, value⟩

/-! ### Markup -/

/-- The markup of a command: its arguments are self-closing elements inside it. -/
def markup (c : Command) : String :=
  let name := c.program.text
  if c.args.isEmpty then "<" ++ name ++ "/>"
  else
    "<" ++ name ++ ">" ++ " ".intercalate (c.args.map fun arg => "<" ++ arg ++ "/>") ++
      "</" ++ name ++ ">"

/-- The markup of commands, with one blank between them. -/
def markupAll (cs : List Command) : String := " ".intercalate (cs.map markup)

end Command

/-! ### Projection -/

/-- The names of elements as arguments. -/
def Element.args (es : List Element) : List String := es.map (·.name.text)

/-- The command of an element. -/
def Element.project (e : Element) : Command := ⟨e.name, Element.args e.children⟩

/-- The commands of a document, one for each top-level element. -/
def Document.project (d : Document) : List Command := d.elements.map Element.project

/-- The log entries of a projection. -/
def Document.projectNotes (d : Document) : List Log.Entry :=
  [⟨.debug, .projection, s!"Projected {d.project.length} command(s)"⟩]

/-- The refusal to project anything but a document. -/
def Datum.projectionMessage (d : Datum) : String :=
  s!"Cannot project {d.sort}; expected a Document"

end TagScript
