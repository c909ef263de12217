import TagScript.Document
import TagScript.Lexeme
import TagScript.Text.UpperCase

/-!
# Values of recipes

A recipe is a parser given by a description, so its values are of one type.

* `Value` holds texts, numbers, lists, pairs, elements and documents.
* `Value.shown` writes a value with quotes and brackets, `Value.text` writes a text as it is.
* `Transform` and `Test` name the functions and predicates that a recipe can apply to a value.
-/

namespace TagScript

/-- A value that a recipe can give. -/
inductive Value where
  | none
  | bool (b : Bool)
  | int (n : Int)
  | str (s : String)
  | list (items : List Value)
  | tuple (items : List Value)
  | element (e : Element)
  | document (d : Document)

namespace Value

mutual

/-- The value with quotes and brackets. -/
def shown : Value → String
  | none => "None"
  | bool b => if b then "True" else "False"
  | int n => toString n
  | str s => Text.quoted s
  | list items => Text.listed (shownAll items)
  | tuple items => Text.tupled (shownAll items)
  | element e => e.shown
  | document d => d.shown

/-- Each value with quotes and brackets. -/
def shownAll : List Value → List String
  | [] => []
  | v :: vs => v.shown :: shownAll vs

end

mutual

/-- The value is a list, or a tuple with a list somewhere inside. -/
def holdsList : Value → Bool
  | list _ => true
  | tuple items => anyHoldsList items
  | _ => false

/-- One of the values is a list, or a tuple with a list somewhere inside. -/
def anyHoldsList : List Value → Bool
  | [] => false
  | v :: vs => v.holdsList || anyHoldsList vs

end

/-- A text as it is, and any other value with quotes and brackets. -/
def text : Value → String
  | str s => s
  | v => v.shown

instance : Display Value := ⟨text⟩

/-- A character as a value. -/
def ofChar (c : Char) : Value := str (String.singleton c)

/-- A pair as a value. -/
def ofPair (p : Value × Value) : Value := tuple [p.1, p.2]

/-- The text of a value that is one. -/
def str? : Value → Option String
  | str s => some s
  | _ => Option.none

/-- The element of a value that is one. -/
def element? : Value → Option Element
  | element e => some e
  | _ => Option.none

/-- The values in a list or tuple; a text holds its characters. -/
def items? : Value → Option (List Value)
  | list vs => some vs
  | tuple vs => some vs
  | str s => some (s.toList.map ofChar)
  | document d => some (d.elements.map element)
  | _ => Option.none

/-- How many items a value holds. -/
def length? (v : Value) : Except Fault Nat :=
  match v.items? with
  | some vs => .ok vs.length
  | Option.none => .error .unsuited

/-- The item of a value at an index. -/
def item? (v : Value) (index : Nat) : Except Fault Value :=
  match v.items? with
  | some vs =>
    match vs[index]? with
    | some item => .ok item
    | Option.none => .error .indexOutOfRange
  | Option.none => .error .unsuited

/-- The value as a text that something is made from. -/
def asText (v : Value) : Except Fault String :=
  match v.str? with
  | some s => .ok s
  | Option.none => .error .unsuited

end Value

/-! ### Functions on values -/

/-- A function that a recipe can apply to a value. -/
inductive Transform where
  | identity
  | upper
  | reverse
  | length
  | text
  | join
  | first
  | second
  | selfClosing
  | container
  | document
deriving DecidableEq, Repr

namespace Transform

/-- The texts of a list of values, joined. -/
def joined (v : Value) : Except Fault Value :=
  match v.items? with
  | some vs =>
    match vs.mapM Value.str? with
    | some texts => .ok (.str (String.join texts))
    | none => .error .unsuited
  | none => .error .unsuited

/-- The document of a list of elements. -/
def assembled (v : Value) : Except Fault Value :=
  match v.items? with
  | some vs =>
    match vs.mapM Value.element? with
    | some es => .ok (.document ⟨es⟩)
    | none => .error .unsuited
  | none => .error .unsuited

/-- The value in the opposite order. -/
def reversed : Value → Except Fault Value
  | .str s => .ok (.str (String.ofList s.toList.reverse))
  | .list vs => .ok (.list vs.reverse)
  | .tuple vs => .ok (.tuple vs.reverse)
  | .document d => .ok (.tuple (d.elements.reverse.map .element))
  | _ => .error .unsuited

/-- Applies a function to a value. -/
def apply : Transform → Value → Except Fault Value
  | .identity, v => .ok v
  | .upper, v =>
    match v.str? with
    | some s => .ok (.str (Text.upper s))
    | none => .error .notText
  | .reverse, v => reversed v
  | .length, v => v.length?.map fun n => .int n
  | .text, v => .ok (.str v.text)
  | .join, v => joined v
  | .first, v => v.item? 0
  | .second, v => v.item? 1
  | .selfClosing, v => v.asText.bind fun s => (Element.selfClosing? s).map .element
  | .container, v => v.asText.bind fun s => (Element.container? s []).map .element
  | .document, v => assembled v

end Transform

/-- A predicate that a recipe can apply to a value. -/
inductive Test where
  | always
  | never
  | nonempty
  | blank
  | nameStart
  | nameChar
  | equals (s : String)
deriving DecidableEq, Repr

namespace Test

/-- The value is a text of one character of the given class. A value that holds a list can be looked
up in no class. -/
def single (isMember : Char → Bool) : Value → Except Fault Bool
  | .str s =>
    match s.toList with
    | [c] => .ok (isMember c)
    | _ => .ok false
  | v => if v.holdsList then .error .unsuited else .ok false

/-- Applies a predicate to a value. -/
def apply : Test → Value → Except Fault Bool
  | .always, _ => .ok true
  | .never, _ => .ok false
  | .nonempty, v => v.length?.map (0 < ·)
  | .blank, v => single Lexeme.isBlank v
  | .nameStart, v => single Lexeme.isNameStart v
  | .nameChar, v => single Lexeme.isNameChar v
  | .equals s, v => .ok (v.str? == some s)

end Test

end TagScript
