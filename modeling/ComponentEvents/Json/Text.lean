/-
This file prints JSON values in messages.
-/

import ComponentEvents.Json.Basic
import ComponentEvents.Number.Decimal
import ComponentEvents.Text.Quoted

namespace ComponentEvents

namespace Json

/-- Messages spell a missing value and the truth values with a capital. -/
def nullText : String := "None"

def boolText (value : Bool) : String := if value then "True" else "False"

mutual

/-- This function prints a value; texts stand in quotes. -/
def text : Json → String
  | .null => nullText
  | .bool value => boolText value
  | .integer value => toString value
  | .double value => value.text
  | .string value => Text.quoted value
  | .array items => "[" ++ ", ".intercalate (itemTexts items) ++ "]"
  | .object entries => "\x7b" ++ ", ".intercalate (entryTexts entries) ++ "\x7d"

def itemTexts : List Json → List String
  | [] => []
  | item :: items => text item :: itemTexts items

def entryTexts : List (String × Json) → List String
  | [] => []
  | (key, value) :: entries => (Text.quoted key ++ ": " ++ text value) :: entryTexts entries

end

end Json

end ComponentEvents
