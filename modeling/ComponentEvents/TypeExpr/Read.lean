/-
This file reads keywords from JSON values.
-/

import ComponentEvents.Json.Text
import ComponentEvents.TypeExpr.Basic

namespace ComponentEvents.Keyword

/-- This is the message for a value that is no kind of keyword. -/
def unknownMessage (value : Json) : String := value.text ++ " is not a valid KeywordKind"

/-- Only the text of a node kind is read. -/
def read (value : Json) : Except String Keyword :=
  match value with
  | .string kind =>
      match ofNodeKind? kind with
      | some keyword => .ok keyword
      | none => .error (unknownMessage value)
  | _ => .error (unknownMessage value)

end ComponentEvents.Keyword
