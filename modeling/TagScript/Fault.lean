import TagScript.Text.Quoted

/-!
# Faults

A fault says that a request cannot be carried out at all, as opposed to a failure, which says that
a text does not have the form asked for.

* `TagForm` names the two written forms of an element.
* `Fault` lists the causes, `Fault.message` words them.
-/

namespace TagScript

/-- The two ways to write an element: `<a/>`, and `<a>` up to `</a>`. -/
inductive TagForm where
  | selfClosing
  | container
deriving DecidableEq, Repr

/-- The name of a form, as element values show it. -/
def TagForm.word : TagForm → String
  | .selfClosing => "SelfClosing"
  | .container => "Container"

/-- Why a request cannot be carried out. -/
inductive Fault where
  /-- An element was to be built without a name. -/
  | emptyName (form : TagForm)
  /-- A position was asked for outside the text. -/
  | offsetOutOfRange (offset : Int) (length : Nat)
  /-- A position was asked to move back. -/
  | backward
  /-- No failure kind has this word. -/
  | unknownKind (word : String)
  /-- A document has no element at this index. -/
  | indexOutOfRange
  /-- Containers nest deeper than the limit. -/
  | nestingExhausted
  /-- Only text has an upper case. -/
  | notText
  /-- The value is of the wrong sort for the operation. -/
  | unsuited
deriving DecidableEq, Repr

/-- The wording of a fault; those that end a computation silently have none. -/
def Fault.message : Fault → Option String
  | .emptyName form => some s!"{form.word} requires a non-empty name"
  | .offsetOutOfRange offset length =>
    some s!"offset {offset} out of range for input of length {length}"
  | .backward => some "positions only move forward"
  | .unknownKind word => some s!"{Text.quoted word} is not a valid ErrorKind"
  | .indexOutOfRange => some "tuple index out of range"
  | .nestingExhausted | .notText | .unsuited => none

end TagScript
