/-
This file writes the schema of an event as a JSON object.
-/

import ComponentEvents.Json.Basic
import ComponentEvents.Schema.Basic

namespace ComponentEvents

namespace Schema

def typeKey : String := "type"

def optionsKey : String := "options"

def propertiesKey : String := "properties"

def nameKey : String := "name"

def optionalKey : String := "optional"

def annotationKey : String := "typeAnnotation"

def dispatchKey : String := "bubblingType"

def legacyNameKey : String := "paperTopLevelNameDeprecated"

def argumentKey : String := "argument"

/-- This is the tag around the payload of an event. -/
def eventTag : String := "EventTypeAnnotation"

end Schema

/-- The tag of a shape tells what its object holds. -/
inductive ShapeTag where
  | scalar (kind : Scalar)
  | stringEnum
  | object
  deriving DecidableEq, Repr

namespace ShapeTag

def text : ShapeTag → String
  | .scalar kind => kind.tag
  | .stringEnum => "StringEnumTypeAnnotation"
  | .object => "ObjectTypeAnnotation"

def ofText? (text : String) : Option ShapeTag :=
  if text = stringEnum.text then some .stringEnum
  else if text = object.text then some .object
  else (Scalar.ofTag? text).map .scalar

@[simp] theorem ofText?_text (tag : ShapeTag) : ofText? tag.text = some tag := by
  cases tag with
  | scalar kind => cases kind <;> rfl
  | stringEnum => rfl
  | object => rfl

end ShapeTag

namespace Shape

open Schema

def tag {Label Flag : Type} : Shape Label Flag → ShapeTag
  | .scalar kind => .scalar kind
  | .stringEnum _ _ => .stringEnum
  | .object _ => .object

mutual

/-- The tag is the first entry. -/
def toJson : Shape Json Json → Json
  | .scalar kind => .object [(typeKey, .string (ShapeTag.scalar kind).text)]
  | .stringEnum first rest =>
      .object [
        (typeKey, .string ShapeTag.stringEnum.text),
        (optionsKey, .array (first :: rest))]
  | .object fields =>
      .object [
        (typeKey, .string ShapeTag.object.text),
        (propertiesKey, .array (fieldsToJson fields))]

def fieldToJson : Field Json Json → Json
  | .mk name optional shape =>
      .object [(nameKey, name), (optionalKey, optional), (annotationKey, toJson shape)]

def fieldsToJson : List (Field Json Json) → List Json
  | [] => []
  | field :: fields => fieldToJson field :: fieldsToJson fields

end

end Shape

def Field.toJson (field : Field Json Json) : Json := Shape.fieldToJson field

namespace Event

open Schema

/-- A legacy name stands before the payload and is left out where there is none. -/
def entries (event : Event Json Json) : List (String × Json) :=
  [
    (nameKey, event.name),
    (optionalKey, event.optional),
    (dispatchKey, .string event.dispatch.text)] ++
  event.legacyName.toList.map (fun name => (legacyNameKey, name)) ++
  [
    (annotationKey,
      .object [
        (typeKey, .string eventTag),
        (argumentKey, Shape.toJson (.object event.fields))])]

def toJson (event : Event Json Json) : Json := .object event.entries

/-- The labels of an extracted event are texts and its flags are truth values. -/
def ofExtracted (event : Event String Bool) : Event Json Json := event.map .string .bool

end Event

end ComponentEvents
