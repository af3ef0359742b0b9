/-
This file finds the event handler behind the type of a property.
-/

import ComponentEvents.Dispatch
import ComponentEvents.Log

namespace ComponentEvents

/-- The arguments are those of the handler type; the flag tells whether the property may be left
out. -/
structure Handler where
  dispatch : Dispatch
  arguments : List TypeExpr
  optional : Bool

namespace Handler

/-- This is the type that the handler was found as. -/
def reference (handler : Handler) : TypeExpr :=
  .reference handler.dispatch.wrapperName handler.arguments

mutual

/-- Parentheses are looked through, and a union is what its first arm is that is not nullish. -/
def detect (config : Config) (optional : Bool) : TypeExpr → Logged (Option Handler)
  | .parenthesized inner => detect config optional inner
  | .union arms => do
      Logged.noteDropped config .handlerArmsDropped arms
      detectFirst config (optional || TypeExpr.hasNullish arms) arms
  | .reference name arguments =>
      pure ((Dispatch.ofWrapperName? name).map fun dispatch => ⟨dispatch, arguments, optional⟩)
  | _ => pure none

def detectFirst (config : Config) (optional : Bool) : List TypeExpr → Logged (Option Handler)
  | [] => pure none
  | arm :: arms =>
      if arm.isNullish then detectFirst config optional arms else detect config optional arm

end

/-- The first arm decides, and a union of nullish arms is no handler. -/
theorem detectFirst_eq (config : Config) (optional : Bool) (arms : List TypeExpr) :
    detectFirst config optional arms =
      match TypeExpr.otherArms arms with
      | [] => pure none
      | first :: _ => detect config optional first := by
  induction arms with
  | nil => simp [detectFirst, TypeExpr.otherArms]
  | cons arm arms inductionHypothesis =>
      rw [detectFirst]
      cases nullish : arm.isNullish with
      | true => simpa [nullish] using inductionHypothesis
      | false => simp [nullish]

/-- A member is not a type and so not a handler. -/
def detectNode (config : Config) (optional : Bool) : Node → Logged (Option Handler)
  | .type type => detect config optional type
  | .member _ => pure none

end Handler

end ComponentEvents
