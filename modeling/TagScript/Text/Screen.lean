import TagScript.Text.CellWidth
import TagScript.Text.Lines

/-!
# Text on a screen

* `dropped` characters move the cursor or ring the bell and never reach the screen.
* `expandTabs` writes a tab as spaces up to the next column that is a multiple of `tabStop`.
* `onScreen` does both to every line of a text.
-/

namespace TagScript.Text

/-- Tabs reach to the next multiple of this column. -/
def tabStop : Nat := 8

/-- Bell, backspace, vertical tab, form feed and carriage return are not shown. -/
def isDropped (c : Char) : Bool := [0x7, 0x8, 0xb, 0xc, 0xd].contains c.toNat

/-- The line with its tabs as spaces, from the given column on; wide characters take two columns. -/
def expandTabs : Nat → List Char → List Char
  | _, [] => []
  | column, c :: cs =>
    if c = '\t' then
      let width := tabStop - column % tabStop
      List.replicate width ' ' ++ expandTabs (column + width) cs
    else c :: expandTabs (column + cellWidth c) cs

/-- The text as a screen shows it. -/
def onScreen (s : String) : String :=
  let shown := (lines s.toList).map fun line => expandTabs 0 (line.filter (!isDropped ·))
  "\n".intercalate (shown.map String.ofList)

end TagScript.Text
