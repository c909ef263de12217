import TagScript.Text.Quoted

/-!
# Data from outside

* `Datum` is a value of no known type, as settings and command fields are given.
* `Fields` is a list of named data; `Fields.put` lays one over another.
-/

namespace TagScript

/-- A value from outside. -/
inductive Datum where
  | null
  | bool (b : Bool)
  | int (n : Int)
  /-- The decimal fraction `digits / 10 ^ places`. -/
  | decimal (digits : Int) (places : Nat)
  | str (s : String)
  | list (items : List Datum)
  | record (fields : List (String × Datum))

namespace Datum

/-- The name of the sort of a datum. -/
def sort : Datum → String
  | null => "NoneType"
  | bool _ => "bool"
  | int _ => "int"
  | decimal .. => "float"
  | str _ => "str"
  | list _ => "list"
  | record _ => "dict"

/-- The datum is absent. -/
def isNull : Datum → Bool
  | null => true
  | _ => false

/-- A decimal fraction written out. -/
def decimalText (digits : Int) (places : Nat) : String :=
  let ds := Nat.toDigits 10 digits.natAbs
  let ds := List.replicate (places + 1 - ds.length) '0' ++ ds
  let whole := ds.take (ds.length - places)
  let part := ds.drop (ds.length - places)
  (if digits < 0 then "-" else "") ++ String.ofList whole ++ "." ++
    (if part.isEmpty then "0" else String.ofList part)

mutual

/-- The datum with quotes and brackets. -/
def shown : Datum → String
  | null => "None"
  | bool b => if b then "True" else "False"
  | int n => toString n
  | decimal digits places => decimalText digits places
  | str s => Text.quoted s
  | list items => Text.listed (shownAll items)
  | record fields => "\x7b" ++ ", ".intercalate (shownFields fields) ++ "\x7d"

/-- Each datum with quotes and brackets. -/
def shownAll : List Datum → List String
  | [] => []
  | d :: ds => d.shown :: shownAll ds

/-- Each named datum with quotes and brackets. -/
def shownFields : List (String × Datum) → List String
  | [] => []
  | (key, d) :: rest => (Text.quoted key ++ ": " ++ d.shown) :: shownFields rest

end

end Datum

/-- Named data, each name once. -/
abbrev Fields := List (String × Datum)

namespace Fields

/-- Replaces the datum of a name where it stands, or adds it at the end. -/
def set (fields : Fields) (key : String) (value : Datum) : Fields :=
  if fields.any (·.1 == key) then
    fields.map fun field => if field.1 == key then (key, value) else field
  else fields ++ [(key, value)]

/-- Lays the second fields over the first. -/
def put (fields updates : Fields) : Fields := updates.foldl (fun fs u => fs.set u.1 u.2) fields

/-- The fields that are not absent. -/
def present (fields : Fields) : Fields := fields.filter (!·.2.isNull)

end Fields

end TagScript
