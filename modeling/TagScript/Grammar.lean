import TagScript.Element
import TagScript.Lexeme

/-!
# The grammar of elements

    element   := "<" name "/>"  |  "<" name ">" (blanks element)* blanks "</" name ">"

The two names of a container must be equal.

* `tag` reads a name between two marks; `selfClosingTag`, `openTag`, `closeTag` read the single
  tags with it, `tagStart` the beginning of one.
* `containerBody` reads children up to the closing tag.
* `element limit` reads an element whose containers stand at most `limit` deep; opening one more
  is a fault.
-/

namespace TagScript.Grammar

open TagScript.Parser Lexeme

/-- How deep containers may stand inside one another. -/
def nestingLimit : Nat := 150

/-- Reads `<` and a name; text that does not begin so is no element at all. -/
def tagStart : Parser (String × String) := pair (literal "<") name

/-- Reads a name between the given marks. -/
def tag (opening closing : String) : Parser String :=
  right (literal opening) (left name (literal closing))

/-- Reads `<name/>`. -/
def selfClosingTag : Parser Element := (tag "<" "/>").mapM Element.selfClosing?

/-- Reads `<name>` and gives the name. -/
def openTag : Parser String := tag "<" ">"

/-- Reads `</name>` and gives the name. -/
def closingName : Parser String := tag "</" ">"

/-- Reads the closing tag of the given name. A closing tag of another name is a mismatch, reported
where the tag begins. -/
def closeTag (expected : String) : Parser String := fun start =>
  match closingName start with
  | .ok (.success next found) =>
    if found = expected then .ok (.success next found)
    else .ok (.failure start (.plain .tagMismatch start.offset (some expected) (some found)))
  | result => result

/-- The children up to the closing tag of the given name, read with `child`. The closing tag is
tried first. Where neither it nor a child can be read, the failure of the child is reported if a tag
begins there, and that of the closing tag otherwise. A child that takes no text is no child. -/
def childrenOf (child : Parser Element) (name : String) (current : Position) :
    Except Fault (Outcome (List Element)) :=
  let here := skipBlanks current
  match closeTag name here with
  | .error fault => .error fault
  | .ok (.success next _) => .ok (.success next [])
  | .ok (.failure _ unclosed) =>
    match child here with
    | .error fault => .error fault
    | .ok (.failure _ broken) =>
      .ok (.failure current (if tagStart.accepts here then broken else unclosed))
    | .ok (.success next e) =>
      if next.left < current.left then
        match childrenOf child name next with
        | .error fault => .error fault
        | .ok outcome => .ok (outcome.map (e :: ·))
      else .ok (.failure current unclosed)
termination_by current.left

/-- Reads the children of a container and its closing tag. -/
def containerBody (child : Parser Element) (name : String) : Parser Element := fun start =>
  match childrenOf child name start with
  | .error fault => .error fault
  | .ok (.failure _ failed) => .ok (.failure start failed)
  | .ok (.success next es) =>
    match Element.container? name es with
    | .error fault => .error fault
    | .ok e => .ok (.success next e)

/-- Reads a container in which containers stand at most `limit` deep, itself included. -/
def containerTag : Nat → Parser Element
  | 0 => openTag.andThen fun _ => abort .nestingExhausted
  | limit + 1 => openTag.andThen (containerBody (either selfClosingTag (containerTag limit)))

/-- Reads an element in which containers stand at most `limit` deep. -/
def element (limit : Nat) : Parser Element := either selfClosingTag (containerTag limit)

theorem containerTag_succ (limit : Nat) :
    containerTag (limit + 1) = openTag.andThen (containerBody (element limit)) := rfl

end TagScript.Grammar
