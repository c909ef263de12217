/-!
# Lines and columns

Only the line feed ends a line.

* `lines` splits a text at its line feeds; a text of `n` of them has `n + 1` lines.
* `lineColumn` gives the line and column of an offset, both counted from 1.
* `unifyNewlines` turns the other two line ends, carriage return alone or before a line feed, into
  a line feed.
-/

namespace TagScript.Text

/-- The lines of a text, without the line feeds between them. -/
def lines : List Char → List (List Char)
  | [] => [[]]
  | c :: cs =>
    if c = '\n' then [] :: lines cs
    else
      match lines cs with
      | [] => [[c]]
      | line :: rest => (c :: line) :: rest

/-- An offset moved into the range from 0 to the length of the text. -/
def clampOffset (text : String) (offset : Int) : Nat := min offset.toNat text.length

/-- Line and column reached after the given characters. -/
def lineColumnAfter (passed : List Char) : Nat × Nat :=
  (passed.count '\n' + 1, (passed.reverse.takeWhile (· ≠ '\n')).length + 1)

/-- Line and column of an offset; one outside the text counts as the nearest end of it. -/
def lineColumn (text : String) (offset : Int) : Nat × Nat :=
  lineColumnAfter (text.toList.take (clampOffset text offset))

/-- The characters with every line end written as a line feed. -/
def unifyNewlines : List Char → List Char
  | [] => []
  | '\r' :: '\n' :: cs => '\n' :: unifyNewlines cs
  | c :: cs => (if c = '\r' then '\n' else c) :: unifyNewlines cs

@[simp] theorem lines_nil : lines [] = [[]] := rfl

theorem lines_ne_nil (cs : List Char) : lines cs ≠ [] := by
  cases cs with
  | nil => simp
  | cons c cs =>
    rw [lines]
    split
    · simp
    · split <;> simp

end TagScript.Text
