import TagScript.Text.Quoted

/-!
# Failures

What a parser reports when a text does not have the form asked for.

* `Failure.Kind` says what went wrong, `Failure` adds where, what was expected, what was found, the
  failures of the alternatives tried and the failure that caused this one.
* `Failure.agrees` compares the report itself and leaves alternatives and cause out.
* `describe` words a failure, `summary` adds the offset, `shown` writes out every part.
-/

namespace TagScript

/-- What went wrong. -/
inductive Failure.Kind where
  | expectedLiteral
  | expectedIdentifier
  | expectedWhitespace
  | expectedAtLeastOne
  | predicateRejected
  | tagMismatch
  | trailingInput
  | nestingTooDeep
deriving DecidableEq, Repr

namespace Failure.Kind

/-- Every kind. -/
def all : List Kind :=
  [expectedLiteral, expectedIdentifier, expectedWhitespace, expectedAtLeastOne, predicateRejected,
   tagMismatch, trailingInput, nestingTooDeep]

/-- The word of a kind. -/
def word : Kind → String
  | expectedLiteral => "expected_literal"
  | expectedIdentifier => "expected_identifier"
  | expectedWhitespace => "expected_whitespace"
  | expectedAtLeastOne => "expected_at_least_one"
  | predicateRejected => "predicate_rejected"
  | tagMismatch => "tag_mismatch"
  | trailingInput => "trailing_input"
  | nestingTooDeep => "nesting_too_deep"

/-- The kind with a given word. -/
def ofWord? (s : String) : Option Kind := all.find? (·.word == s)

@[simp] theorem ofWord?_word (k : Kind) : ofWord? k.word = some k := by cases k <;> decide

/-- The word of a kind with spaces, as descriptions begin. -/
def phrase (k : Kind) : String := k.word.map fun c => if c = '_' then ' ' else c

/-- The kind as failures show it. -/
def shown (k : Kind) : String := s!"<ErrorKind.{k.word.map Char.toUpper}: {Text.quoted k.word}>"

end Failure.Kind

/-- A report that a text does not have the form asked for. -/
structure Failure where
  kind : Failure.Kind
  offset : Int
  expected : Option String
  found : Option String
  alternatives : List Failure
  cause : Option Failure

namespace Failure

/-- A failure with no alternatives and no cause. -/
def plain (kind : Kind) (offset : Int) (expected found : Option String) : Failure :=
  ⟨kind, offset, expected, found, [], none⟩

/-- Two failures report the same; how they came about does not count. -/
def agrees (f g : Failure) : Bool :=
  f.kind == g.kind && f.offset == g.offset && f.expected == g.expected && f.found == g.found

/-- What was found, as descriptions end. -/
def foundPhrase : Option String → String
  | none => ""
  | some s => if s.isEmpty then ", found end of input" else ", found " ++ Text.quoted s

/-- What was expected, as descriptions go on. -/
def expectedPhrase : Option String → String
  | none => ""
  | some s => " " ++ Text.quoted s

/-- The failure in words. -/
def describe (f : Failure) : String :=
  match f.kind with
  | .tagMismatch =>
    "closing tag '</" ++ f.found.getD "None" ++ ">' does not match opening tag '<" ++
      f.expected.getD "None" ++ ">'"
  | .trailingInput => "unexpected trailing input " ++ Text.quotedOr f.found
  | .nestingTooDeep => "elements are nested too deeply to parse"
  | kind => kind.phrase ++ expectedPhrase f.expected ++ foundPhrase f.found

/-- The failure in words, with its offset. -/
def summary (f : Failure) : String := s!"{f.describe} at offset {f.offset}"

mutual

/-- The failure with all its parts. -/
def shown : Failure → String
  | ⟨kind, offset, expected, found, alternatives, cause⟩ =>
    s!"ParseFailure(kind={kind.shown}, offset={offset}, expected={Text.quotedOr expected}, " ++
      s!"found={Text.quotedOr found}, alternatives={Text.tupled (shownAll alternatives)}, " ++
      s!"cause={shownCause cause})"

/-- Each failure with all its parts. -/
def shownAll : List Failure → List String
  | [] => []
  | f :: fs => f.shown :: shownAll fs

/-- The causing failure with all its parts, if there is one. -/
def shownCause : Option Failure → String
  | none => "None"
  | some f => f.shown

end

end Failure

end TagScript
