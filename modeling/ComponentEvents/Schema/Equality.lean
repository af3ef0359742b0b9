/-
This file compares schemas whose labels are JSON values.
-/

import ComponentEvents.Json.Equality
import ComponentEvents.Schema.Basic

namespace ComponentEvents

namespace Shape

mutual

/-- Shapes agree part by part in order. -/
def same : Shape Json Json → Shape Json Json → Bool
  | .scalar left, .scalar right => left = right
  | .stringEnum left lefts, .stringEnum right rights =>
      left.same right && Json.sameItems lefts rights
  | .object lefts, .object rights => sameFields lefts rights
  | _, _ => false

def sameField : Field Json Json → Field Json Json → Bool
  | .mk leftName leftFlag left, .mk rightName rightFlag right =>
      leftName.same rightName && leftFlag.same rightFlag && same left right

def sameFields : List (Field Json Json) → List (Field Json Json) → Bool
  | [], [] => true
  | left :: lefts, right :: rights => sameField left right && sameFields lefts rights
  | _, _ => false

end

end Shape

/-- A missing legacy name agrees only with a missing one. -/
def Event.sameLegacyName : Option Json → Option Json → Bool
  | none, none => true
  | some left, some right => left.same right
  | _, _ => false

/-- Events agree when all their parts do. -/
def Event.same (left right : Event Json Json) : Bool :=
  left.name.same right.name &&
    left.optional.same right.optional &&
    left.dispatch = right.dispatch &&
    Event.sameLegacyName left.legacyName right.legacyName &&
    Shape.sameFields left.fields right.fields

end ComponentEvents
