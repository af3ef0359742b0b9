/-
This file holds JSON values as they are read and written.
-/

import ComponentEvents.Number.Double

namespace ComponentEvents

/-- Numbers without a point and an exponent are integers of any size, and an object keeps the order
of its entries. -/
inductive Json where
  | null
  | bool (value : Bool)
  | integer (value : Int)
  | double (value : Double)
  | string (value : String)
  | array (items : List Json)
  | object (entries : List (String × Json))

instance : Inhabited Json := ⟨.null⟩

namespace Json

/-- This function finds the value under a key. -/
def lookup? (key : String) (entries : List (String × Json)) : Option Json :=
  entries.lookup key

/-- An empty text, an empty list, a zero and a null count as false. -/
def isTruthy : Json → Bool
  | .null => false
  | .bool value => value
  | .integer value => value ≠ 0
  | .double value => !value.isZero
  | .string value => value ≠ ""
  | .array items => !items.isEmpty
  | .object entries => !entries.isEmpty

end Json

end ComponentEvents
