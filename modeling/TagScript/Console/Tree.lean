import TagScript.Document

/-!
# The printed tree

A document is printed as one line for each element, under the line `document`.

* `label` is the name of an element with children and the markup of any other.
* `branches` are the lines of a list of elements behind a common indentation.
-/

namespace TagScript.Console

/-- The text of an element in the tree. -/
def label (e : Element) : String := if e.children.isEmpty then e.markup else e.name.text

/-- The guide before an element: the last of its siblings turns a corner. -/
def guide (last : Bool) : String := if last then "└── " else "├── "

/-- What stands below the guide of an element. -/
def rail (last : Bool) : String := if last then "    " else "│   "

mutual

/-- The lines of an element and of what stands inside it. -/
def branch (indentation : String) (last : Bool) : Element → List String
  | .selfClosing n => [indentation ++ guide last ++ label (.selfClosing n)]
  | .container n es =>
    (indentation ++ guide last ++ label (.container n es)) ::
      branches (indentation ++ rail last) es

/-- The lines of siblings. -/
def branches (indentation : String) : List Element → List String
  | [] => []
  | e :: es => branch indentation es.isEmpty e ++ branches indentation es

end

/-- The lines of a document. -/
def treeLines (d : Document) : List String := "document" :: branches "" d.elements

end TagScript.Console
