import TagScript.Element

/-!
# Documents

A document is a list of top-level elements.

* `Document.get?` and `Document.slice` index it; a negative index counts from the end.
* `Document.markup` writes it with one blank between elements.
-/

namespace TagScript

/-- The top-level elements in the order of the text. -/
structure Document where
  elements : List Element
deriving DecidableEq

namespace Document

/-- The number of top-level elements. -/
def size (d : Document) : Nat := d.elements.length

/-- An index counted from the start, for one that may count from the end. -/
def absolute (d : Document) (index : Int) : Int := if index < 0 then index + d.size else index

/-- The top-level element at an index. -/
def get? (d : Document) (index : Int) : Except Fault Element :=
  let i := d.absolute index
  if i < 0 then .error .indexOutOfRange
  else
    match d.elements[i.toNat]? with
    | some e => .ok e
    | none => .error .indexOutOfRange

/-- The top-level elements from one index up to another; an absent end is open, and one outside the
document counts as the nearest end of it. -/
def slice (d : Document) (first last : Option Int) : List Element :=
  let low := (first.map d.absolute).getD 0
  let high := (last.map d.absolute).getD d.size
  (d.elements.take high.toNat).drop low.toNat

/-- The names of the top-level elements. -/
def names (d : Document) : List String := d.elements.map (·.name.text)

/-- The document as markup. -/
def markup (d : Document) : String := " ".intercalate (Element.markups d.elements)

/-- The document as messages show it. -/
def shown (d : Document) : String :=
  s!"Document(elements={Text.tupled (Element.shownAll d.elements)})"

end Document

end TagScript
