import TagScript.Reading

/-!
# Reports of failed readings

* `Context` is the place of an offset in a named source, with the line it lies in.
* `Context.location` lays it out with a caret under the column.
* `ParseError` is a failure with its context, `Document.parse` a reading that ends in one.
-/

namespace TagScript

/-- The place of an offset in a source. -/
structure Context where
  offset : Int
  line : Nat
  column : Nat
  sourceLine : String
  sourceName : Option String
deriving DecidableEq, Repr

namespace Context

/-- The place of an offset in a text. -/
def ofText (text : String) (offset : Int) (sourceName : Option String) : Context :=
  let (line, column) := Text.lineColumn text offset
  let sourceLine := (Text.lines text.toList)[line - 1]?.getD []
  ⟨offset, line, column, String.ofList sourceLine, sourceName⟩

/-- The name of the source before the line number; a source without a name is just a line. -/
def whereabouts (c : Context) : String :=
  match c.sourceName with
  | some name => if name.isEmpty then "line " else name ++ ":"
  | none => "line "

/-- Line, column and offset, then the source line and a caret under the column, unless that line is
empty. -/
def location (c : Context) : String :=
  let place := s!"  at {c.whereabouts}{c.line}:{c.column} (offset {c.offset})"
  if c.sourceLine.isEmpty then place
  else
    "\n".intercalate
      [place, "    " ++ c.sourceLine,
       "    " ++ String.ofList (List.replicate (c.column - 1) ' ') ++ "^"]

end Context

/-- A failed reading. -/
structure ParseError where
  failure : Failure
  context : Context

namespace ParseError

/-- The error of a failure in a text. -/
def of (failure : Failure) (text : String) (sourceName : Option String) : ParseError :=
  ⟨failure, Context.ofText text failure.offset sourceName⟩

/-- The error in words, with its place. -/
def message (e : ParseError) : String :=
  s!"Parse error: {e.failure.describe}\n{e.context.location}"

end ParseError

/-- Why a document could not be had. -/
inductive ReadError where
  | rejected (error : ParseError)
  | fault (fault : Fault)

/-- Reads a whole text as a document, or reports why it is none. -/
def Document.parse (text : String) (sourceName : Option String) : Except ReadError Document :=
  match Document.tryParse text with
  | .error fault => .error (.fault fault)
  | .ok (.success _ d) => .ok d
  | .ok (.failure _ failed) => .error (.rejected (ParseError.of failed text sourceName))

theorem Document.parse_eq_ok_iff_tryParse {text : String} {sourceName : Option String}
    {d : Document} :
    parse text sourceName = .ok d ↔ ∃ p, tryParse text = .ok (.success p d) := by
  rw [parse]
  rcases tryParse text with fault | ⟨p, d'⟩ | ⟨p, failed⟩ <;> simp

end TagScript
