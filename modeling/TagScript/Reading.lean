import TagScript.Document
import TagScript.Grammar
import TagScript.Log

/-!
# Reading documents

    document := (blanks element)* blanks

At top level a self-closing element followed by its own closing tag is an empty container.

* `Document.read limit` reads a whole text, `Document.tryParse` does so with the usual limit.
* `Document.notes` are the log entries of a reading.
-/

namespace TagScript

open TagScript.Parser Lexeme Grammar

namespace Grammar

/-- A closing tag that repeats the name of the self-closing element before it closes that element,
which is then an empty container. -/
def closeTopLevel : Element → Parser Element
  | .selfClosing n =>
    either ((right blanks (closeTag n.text)).mapM fun text => Element.container? text [])
      (succeed (.selfClosing n))
  | e => succeed e

/-- Reads an element that stands in no other. -/
def topLevelElement (limit : Nat) : Parser Element := (element limit).andThen closeTopLevel

/-- What a document reports when no top-level element can be read at `here`: the failure of the
element if a tag begins there, and else that text is left over. -/
def leftOver (here : Position) (failed : Failure) : Failure :=
  if tagStart.accepts here then failed
  else ⟨.trailingInput, here.offset, none, some here.remaining, [], some failed⟩

/-- What a document reports when containers nest too deep inside the element at `here`. -/
def tooDeep (here : Position) : Failure :=
  .plain .nestingTooDeep here.offset none (some (here.peek 1))

/-- The top-level elements from a position to the end of the text. -/
def topLevelElements (limit : Nat) (current : Position) :
    Except Fault (Outcome (List Element)) :=
  let here := skipBlanks current
  if here.atEnd then .ok (.success here [])
  else
    match topLevelElement limit here with
    | .error .nestingExhausted => .ok (.failure current (tooDeep here))
    | .error fault => .error fault
    | .ok (.failure _ failed) => .ok (.failure current (leftOver here failed))
    | .ok (.success next e) =>
      if next.left < current.left then
        match topLevelElements limit next with
        | .error fault => .error fault
        | .ok outcome => .ok (outcome.map (e :: ·))
      else .ok (.failure current (.plain .trailingInput here.offset none (some here.remaining)))
termination_by current.left

end Grammar

namespace Document

/-- Reads a whole text as a document in which containers stand at most `limit` deep. A failure is
reported from the start of the text. -/
def read (limit : Nat) (text : String) : Except Fault (Outcome Document) :=
  let start := Position.start text
  match topLevelElements limit start with
  | .error fault => .error fault
  | .ok outcome => .ok ((outcome.startingAt start).map Document.mk)

/-- Reads a whole text as a document. -/
def tryParse (text : String) : Except Fault (Outcome Document) := read nestingLimit text

/-- The log entries of a reading. -/
def notes : Outcome Document → List Log.Entry
  | .success _ d => [⟨.debug, .reading, s!"Parsed {d.size} top-level element(s)"⟩]
  | .failure _ failed =>
    if failed.kind = .nestingTooDeep then
      [⟨.warning, .reading,
        s!"Document nesting exceeds the recursion limit: {failed.summary}"⟩]
    else [⟨.debug, .reading, s!"Document parse failed: {failed.summary}"⟩]

end Document

end TagScript
