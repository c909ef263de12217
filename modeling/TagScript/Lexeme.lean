import TagScript.Parser.Repeat

/-!
# Lexemes

* Blanks are space, tab and line feed; `blanks` reads any number of them, `someBlanks` at least one.
* A name is a letter followed by letters, digits, dots, underscores and hyphens; `name` reads the
  longest one.
* `quotedText` reads a text between double quotes; there are no escapes in it.
-/

namespace TagScript.Lexeme

open TagScript.Parser

/-- A blank of the markup. -/
def isBlank (c : Char) : Bool := c = ' ' || c = '\t' || c = '\n'

/-- A character that can begin a name. -/
def isNameStart (c : Char) : Bool := c.isAlpha

/-- A character that can stand in a name. -/
def isNameChar (c : Char) : Bool := c.isAlphanum || c = '.' || c = '_' || c = '-'

/-- Reads one blank. -/
def blank : Parser Char := anyChar.filter isBlank (some "whitespace")

/-- Reads blanks, possibly none. -/
def blanks : Parser (List Char) := zeroOrMore blank

/-- Reads blanks, at least one. -/
def someBlanks : Parser (List Char) :=
  (oneOrMore blank).label .expectedWhitespace (some "whitespace")

/-- The position behind the blanks that follow. -/
def skipBlanks (p : Position) : Position :=
  match blanks p with
  | .ok outcome => outcome.position
  | .error _ => p

/-- Reads a name. -/
def name : Parser String :=
  ((pair (anyChar.filter isNameStart (some "letter"))
      (zeroOrMore (anyChar.filter isNameChar (some "name character")))).map
    fun (c, cs) => String.ofList (c :: cs)).label .expectedIdentifier (some "identifier")

/-- Reads a text between double quotes and gives what stands between them. -/
def quotedText : Parser String :=
  (right (literal "\"") (left (zeroOrMore (anyChar.filter (· ≠ '"') none)) (literal "\""))).map
    String.ofList

/-- Reads with `p`, allowing blanks on both sides. -/
def amidBlanks {α : Type} (p : Parser α) : Parser α := right blanks (left p blanks)

/-! ### Blanks -/

/-- Blanks are read as far as they go. -/
theorem blanks_eq (p : Position) :
    blanks p =
      .ok (.success (p.advance (p.after.takeWhile isBlank).length) (p.after.takeWhile isBlank)) := by
  rw [blanks, zeroOrMore, blank, chain_filter_anyChar]

theorem skipBlanks_eq (p : Position) :
    skipBlanks p = p.advance (p.after.takeWhile isBlank).length := by
  simp [skipBlanks, blanks_eq, Outcome.position]

@[simp] theorem after_skipBlanks (p : Position) :
    (skipBlanks p).after = p.after.dropWhile isBlank := by
  have h := List.takeWhile_append_dropWhile (p := isBlank) (l := p.after)
  have hd := congrArg (List.drop (p.after.takeWhile isBlank).length) h
  rw [List.drop_left] at hd
  rw [skipBlanks_eq, Position.after_advance, ← hd]

end TagScript.Lexeme
