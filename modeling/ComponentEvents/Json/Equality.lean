/-
This file compares JSON values by what they mean.
-/

import ComponentEvents.Json.Basic

namespace ComponentEvents

namespace Json

/-- A truth value counts as the number one or zero. -/
def integer? : Json → Option Int
  | .bool value => some (if value then 1 else 0)
  | .integer value => some value
  | _ => none

/-- Numbers of both kinds and truth values are compared by their exact values. -/
def sameScalar : Json → Json → Bool
  | .null, .null => true
  | .string left, .string right => left = right
  | .double left, .double right => left.sameNumber right
  | .double left, right => (integer? right).any left.sameInteger
  | left, .double right => (integer? left).any right.sameInteger
  | left, right =>
      match integer? left, integer? right with
      | some left, some right => left = right
      | _, _ => false

mutual

/-- Lists agree item by item; objects agree when they have the same keys with equal values, in any
order. -/
def same : Json → Json → Bool
  | .array left, .array right => sameItems left right
  | .object left, .object right => left.length = right.length && sameEntries left right
  | left, right => sameScalar left right

def sameItems : List Json → List Json → Bool
  | [], [] => true
  | left :: lefts, right :: rights => same left right && sameItems lefts rights
  | _, _ => false

/-- Every entry on the left has an equal one on the right. -/
def sameEntries : List (String × Json) → List (String × Json) → Bool
  | [], _ => true
  | (key, left) :: lefts, rights =>
      (match rights.lookup key with
        | some right => same left right
        | none => false) && sameEntries lefts rights

end

end Json

end ComponentEvents
