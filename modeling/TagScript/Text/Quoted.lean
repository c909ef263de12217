import TagScript.Text.Printable

/-!
# Quoted text and listings

The form in which messages show a text or a list of texts.

* `quoted s` puts `s` between quotes and escapes what would not print.
* `quotedOr` shows a missing text as `None`.
* `listed`, `tupled` put the shown items between brackets.
-/

namespace TagScript.Text

/-- The digits of a number in base sixteen, at least `width` of them. -/
def hexDigits (width n : Nat) : List Char :=
  let ds := Nat.toDigits 16 n
  List.replicate (width - ds.length) '0' ++ ds

/-- The escape of an unprintable character: two, four or eight digits, the fewest that hold it. -/
def codeEscape (c : Char) : List Char :=
  let n := c.toNat
  if n < 0x100 then '\\' :: 'x' :: hexDigits 2 n
  else if n < 0x10000 then '\\' :: 'u' :: hexDigits 4 n
  else '\\' :: 'U' :: hexDigits 8 n

/-- A character as it stands between two marks `mark`. -/
def escaped (mark c : Char) : List Char :=
  if c = mark || c = '\\' then ['\\', c]
  else if c = '\n' then ['\\', 'n']
  else if c = '\r' then ['\\', 'r']
  else if c = '\t' then ['\\', 't']
  else if isPrintable c then [c]
  else codeEscape c

/-- Texts stand between single quotes, those that hold a single quote and no double one between
double quotes. -/
def quoteMark (cs : List Char) : Char :=
  if cs.contains '\x27' && !cs.contains '"' then '"' else '\x27'

/-- The text between quotes. -/
def quoted (s : String) : String :=
  let mark := quoteMark s.toList
  String.ofList (mark :: (s.toList.flatMap (escaped mark) ++ [mark]))

/-- The text between quotes, or `None` when there is none. -/
def quotedOr : Option String → String
  | none => "None"
  | some s => quoted s

/-- Shown items between square brackets. -/
def listed (items : List String) : String := "[" ++ ", ".intercalate items ++ "]"

/-- Shown items between round brackets; a single item keeps a comma. -/
def tupled : List String → String
  | [item] => "(" ++ item ++ ",)"
  | items => "(" ++ ", ".intercalate items ++ ")"

end TagScript.Text
