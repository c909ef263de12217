import TagScript.Fault

/-!
# Elements

* `Name` is a text that is not empty; every element has one.
* `Element` is a self-closing element or a container with its children.
* `Element.markup` writes an element; `selfClosing?` and `container?` build one from any text and
  refuse the empty one.
-/

namespace TagScript

/-- A text that is not empty. -/
structure Name where
  text : String
  text_ne : text ≠ ""
deriving DecidableEq

@[ext] theorem Name.ext {m n : Name} (h : m.text = n.text) : m = n := by
  cases m
  cases n
  simpa using h

/-- The name with the given text, which an element of the given form needs. -/
def Name.ofText? (form : TagForm) (text : String) : Except Fault Name :=
  if h : text = "" then .error (.emptyName form) else .ok ⟨text, h⟩

/-- A parsed tag. -/
inductive Element where
  /-- Written `<name/>`; it has no children. -/
  | selfClosing (name : Name)
  /-- Written `<name>`, children, `</name>`. -/
  | container (name : Name) (children : List Element)

namespace Element

/-- The name of an element. -/
def name : Element → Name
  | selfClosing n => n
  | container n _ => n

/-- The elements directly inside. -/
def children : Element → List Element
  | selfClosing _ => []
  | container _ es => es

@[simp] theorem name_selfClosing (n : Name) : (selfClosing n).name = n := rfl

@[simp] theorem name_container (n : Name) (es : List Element) : (container n es).name = n := rfl

@[simp] theorem children_selfClosing (n : Name) : (selfClosing n).children = [] := rfl

@[simp] theorem children_container (n : Name) (es : List Element) :
    (container n es).children = es := rfl

/-- The self-closing element of a name, which must not be empty. -/
def selfClosing? (text : String) : Except Fault Element :=
  (Name.ofText? .selfClosing text).map selfClosing

/-- The container of a name, which must not be empty, around the given children. -/
def container? (text : String) (children : List Element) : Except Fault Element :=
  (Name.ofText? .container text).map (container · children)

/-! ### Equality -/

mutual

/-- Elements are compared by form, name and children. -/
def decEq : (e f : Element) → Decidable (e = f)
  | selfClosing m, selfClosing n =>
    if h : m = n then isTrue (by rw [h]) else isFalse (by simpa using h)
  | selfClosing _, container _ _ => isFalse (by simp)
  | container _ _, selfClosing _ => isFalse (by simp)
  | container m es, container n fs =>
    if h : m = n then
      match decEqList es fs with
      | isTrue hs => isTrue (by rw [h, hs])
      | isFalse hs => isFalse (by simp [hs])
    else isFalse (by simp [h])

/-- Lists of elements are compared item by item. -/
def decEqList : (es fs : List Element) → Decidable (es = fs)
  | [], [] => isTrue rfl
  | [], _ :: _ => isFalse (by simp)
  | _ :: _, [] => isFalse (by simp)
  | e :: es, f :: fs =>
    match decEq e f, decEqList es fs with
    | isTrue h, isTrue hs => isTrue (by rw [h, hs])
    | isFalse h, _ => isFalse (by simp [h])
    | _, isFalse hs => isFalse (by simp [hs])

end

instance : DecidableEq Element := decEq

/-! ### Written forms -/

mutual

/-- The markup of an element: no blanks but one between children. -/
def markup : Element → String
  | selfClosing n => "<" ++ n.text ++ "/>"
  | container n es => "<" ++ n.text ++ ">" ++ " ".intercalate (markups es) ++ "</" ++ n.text ++ ">"

/-- The markup of each element. -/
def markups : List Element → List String
  | [] => []
  | e :: es => e.markup :: markups es

end

mutual

/-- The element as messages show it. -/
def shown : Element → String
  | selfClosing n => s!"{TagForm.selfClosing.word}(name={Text.quoted n.text})"
  | container n es =>
    s!"{TagForm.container.word}(name={Text.quoted n.text}, children={Text.tupled (shownAll es)})"

/-- Each element as messages show it. -/
def shownAll : List Element → List String
  | [] => []
  | e :: es => e.shown :: shownAll es

end

/-! ### Size and depth -/

mutual

/-- The number of elements in the tree of an element, itself included. -/
def nodes : Element → Nat
  | selfClosing _ => 1
  | container _ es => nodesAll es + 1

/-- The number of elements in a list of trees. -/
def nodesAll : List Element → Nat
  | [] => 0
  | e :: es => e.nodes + nodesAll es

end

mutual

/-- How many containers stand inside one another. -/
def depth : Element → Nat
  | selfClosing _ => 0
  | container _ es => depthAll es + 1

/-- The greatest depth in a list of elements. -/
def depthAll : List Element → Nat
  | [] => 0
  | e :: es => max e.depth (depthAll es)

end

end Element

end TagScript
