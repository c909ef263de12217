import TagScript.Datum

/-!
# Validation issues

* `Rule` lists the rules that a datum can break, `Issue` says which datum breaks which rule.
* `Issue.report` lays out all issues of one set of fields.
-/

namespace TagScript

/-- A rule that a datum can break. -/
inductive Rule where
  | missing
  | stringType
  | stringTooShort
  | tupleType
  | outputFormat
  | boolType
  | boolParsing
  | unknownLevel (given : String)
  | extraForbidden
  | frozenInstance
deriving DecidableEq, Repr

namespace Rule

/-- The code of a rule. -/
def code : Rule → String
  | missing => "missing"
  | stringType => "string_type"
  | stringTooShort => "string_too_short"
  | tupleType => "tuple_type"
  | outputFormat => "literal_error"
  | boolType => "bool_type"
  | boolParsing => "bool_parsing"
  | unknownLevel _ => "value_error"
  | extraForbidden => "extra_forbidden"
  | frozenInstance => "frozen_instance"

/-- The wording of a rule. -/
def message : Rule → String
  | missing => "Field required"
  | stringType => "Input should be a valid string"
  | stringTooShort => "String should have at least 1 character"
  | tupleType => "Input should be a valid tuple"
  | outputFormat => "Input should be 'text' or 'json'"
  | boolType => "Input should be a valid boolean"
  | boolParsing => "Input should be a valid boolean, unable to interpret input"
  | unknownLevel given => s!"Value error, unknown log level: {given}"
  | extraForbidden => "Extra inputs are not permitted"
  | frozenInstance => "Instance is frozen"

end Rule

/-- A rule broken by a datum, which is a field or an item of one. -/
structure Issue where
  field : String
  item : Option Nat
  rule : Rule
  given : Datum

namespace Issue

/-- The longest beginning of a text that takes at most so many bytes. -/
def fitting : Nat → List Char → List Char
  | _, [] => []
  | room, c :: cs =>
    if c.utf8Size ≤ room then c :: fitting (room - c.utf8Size) cs else []

/-- A text of more than 50 bytes is cut to its first 25 and last 24, at whole characters. -/
def abridged (s : String) : String :=
  if s.utf8ByteSize ≤ 50 then s
  else
    String.ofList (fitting 25 s.toList) ++ "..." ++
      String.ofList (fitting 24 s.toList.reverse).reverse

/-- The place of an issue. -/
def place (i : Issue) : String :=
  match i.item with
  | none => i.field
  | some n => s!"{i.field}.{n}"

/-- The two lines of an issue. -/
def report (i : Issue) : String :=
  s!"{i.place}\n  {i.rule.message} [type={i.rule.code}, " ++
    s!"input_value={abridged i.given.shown}, input_type={i.given.sort}]"

/-- The issues of fields that were to make something of the given title. -/
def reportAll (title : String) (issues : List Issue) : String :=
  let count := issues.length
  let noun := if count = 1 then "error" else "errors"
  "\n".intercalate (s!"{count} validation {noun} for {title}" :: issues.map report)

end Issue

end TagScript
