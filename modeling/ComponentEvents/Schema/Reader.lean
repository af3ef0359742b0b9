/-
This file reads the schema of an event from a JSON value.
-/

import ComponentEvents.Json.Text
import ComponentEvents.Schema.Writer

namespace ComponentEvents

/-- A value is no schema for one of these causes. -/
inductive ReadError where
  | shapeNotAnObject
  | tagNotAScalar
  | unknownTag (tag : Json)
  | missing (key : String)
  | notAList
  | noOptions
  | fieldNotAnObject
  | eventNotAnObject
  | annotationNotAnObject
  | unexpectedTag (name tag : Json)
  | payloadNotAnObject (name : Json)
  | unknownDispatch (value : Json)

/-- A value of the wrong kind has no message. -/
def ReadError.message? : ReadError → Option String
  | .unknownTag tag => some ("Unknown event type annotation: " ++ tag.text)
  | .missing key => some (Text.quoted key)
  | .noOptions => some "StringEnumTypeAnnotation requires at least one option"
  | .unexpectedTag name tag =>
      some ("Expected EventTypeAnnotation for " ++ name.text ++ ", got " ++ tag.text)
  | .payloadNotAnObject name =>
      some ("Event argument for " ++ name.text ++ " must be an object")
  | .unknownDispatch value => some (value.text ++ " is not a valid BubblingType")
  | _ => none

/-- A value is refused in one of four ways. -/
inductive ReadErrorClass where
  | attributeError
  | typeError
  | keyError
  | valueError
  deriving DecidableEq, Repr

/-- A value without entries to ask for and one that cannot be used as it is are told apart from a
missing key and from a value that says something unknown. -/
def ReadError.errorClass : ReadError → ReadErrorClass
  | .shapeNotAnObject | .annotationNotAnObject => .attributeError
  | .tagNotAScalar | .notAList | .fieldNotAnObject | .eventNotAnObject => .typeError
  | .missing _ => .keyError
  | .unknownTag _ | .noOptions | .unexpectedTag _ _ | .payloadNotAnObject _
  | .unknownDispatch _ => .valueError

namespace Json

/-- A key without an entry is an error. -/
def required (key : String) (entries : List (String × Json)) : Except ReadError Json :=
  match lookup? key entries with
  | some value => .ok value
  | none => .error (.missing key)

/-- A text is the list of its characters and an object the list of its keys. -/
def items? : Json → Option (List Json)
  | .array items => some items
  | .string text => some (text.toList.map fun character => .string (String.singleton character))
  | .object entries => some (entries.map fun entry => .string entry.1)
  | _ => none

end Json

namespace Dispatch

def read (value : Json) : Except ReadError Dispatch :=
  match value with
  | .string text =>
      match ofText? text with
      | some dispatch => .ok dispatch
      | none => .error (.unknownDispatch value)
  | _ => .error (.unknownDispatch value)

@[simp] theorem read_text (dispatch : Dispatch) : read (.string dispatch.text) = .ok dispatch := by
  cases dispatch <;> rfl

end Dispatch

namespace Shape

open Schema

/-- A missing tag is unknown like any tag that is not a text. -/
def readTag (entries : List (String × Json)) : Except ReadError ShapeTag :=
  match (Json.lookup? typeKey entries).getD .null with
  | .string text =>
      match ShapeTag.ofText? text with
      | some tag => .ok tag
      | none => .error (.unknownTag (.string text))
  | .array _ => .error .tagNotAScalar
  | .object _ => .error .tagNotAScalar
  | tag => .error (.unknownTag tag)

/-- The options of an enumeration are not looked into. -/
def ofOptions {Label Flag : Type} : List Label → Except ReadError (Shape Label Flag)
  | [] => .error .noOptions
  | first :: rest => .ok (.stringEnum first rest)

def readOptions (entries : List (String × Json)) : Except ReadError (Shape Json Json) := do
  let options ← Json.required optionsKey entries
  match options.items? with
  | some items => ofOptions items
  | none => .error .notAList

/-- A flag that is not given is false. -/
def readFlag (entries : List (String × Json)) : Json :=
  (Json.lookup? optionalKey entries).getD (.bool false)

mutual

/-- The tag is read first and tells what else is read. -/
def read : Json → Except ReadError (Shape Json Json)
  | .object entries =>
      match readTag entries with
      | .error error => .error error
      | .ok (.scalar kind) => .ok (.scalar kind)
      | .ok .stringEnum => readOptions entries
      | .ok .object => do
          let fields ← readFieldsEntry entries
          return .object fields
  | _ => .error .shapeNotAnObject

/-- An object without this entry has no fields. -/
def readFieldsEntry : List (String × Json) → Except ReadError (List (Field Json Json))
  | [] => .ok []
  | (key, value) :: entries =>
      if propertiesKey = key then readFields value else readFieldsEntry entries

/-- A text or an object holds no fields, and it is read only where it is empty. -/
def readFields : Json → Except ReadError (List (Field Json Json))
  | .array items => readItems items
  | .string text => if text = "" then .ok [] else .error .fieldNotAnObject
  | .object entries => if entries.isEmpty then .ok [] else .error .fieldNotAnObject
  | _ => .error .notAList

def readItems : List Json → Except ReadError (List (Field Json Json))
  | [] => .ok []
  | item :: items => do
      let first ← readField item
      let rest ← readItems items
      return first :: rest

/-- The name of a field is read before its shape. -/
def readField : Json → Except ReadError (Field Json Json)
  | .object entries => do
      let name ← Json.required nameKey entries
      let shape ← readShapeEntry entries
      return .mk name (readFlag entries) shape
  | _ => .error .fieldNotAnObject

def readShapeEntry : List (String × Json) → Except ReadError (Shape Json Json)
  | [] => .error (.missing annotationKey)
  | (key, value) :: entries =>
      if annotationKey = key then read value else readShapeEntry entries

end

/-- Only the fields of the first entry with the key are read. -/
theorem readFieldsEntry_eq (entries : List (String × Json)) :
    readFieldsEntry entries =
      match Json.lookup? propertiesKey entries with
      | some value => readFields value
      | none => .ok [] := by
  induction entries with
  | nil => rfl
  | cons entry entries inductionHypothesis =>
      obtain ⟨key, value⟩ := entry
      by_cases found : propertiesKey = key
      · simp [readFieldsEntry, Json.lookup?, found]
      · simpa [readFieldsEntry, Json.lookup?, List.lookup_cons, beq_eq_false_iff_ne.mpr found,
          found] using inductionHypothesis

/-- Only the shape of the first entry with the key is read. -/
theorem readShapeEntry_eq (entries : List (String × Json)) :
    readShapeEntry entries =
      match Json.lookup? annotationKey entries with
      | some value => read value
      | none => .error (.missing annotationKey) := by
  induction entries with
  | nil => rfl
  | cons entry entries inductionHypothesis =>
      obtain ⟨key, value⟩ := entry
      by_cases found : annotationKey = key
      · simp [readShapeEntry, Json.lookup?, found]
      · simpa [readShapeEntry, Json.lookup?, List.lookup_cons, beq_eq_false_iff_ne.mpr found,
          found] using inductionHypothesis

end Shape

def Field.read (value : Json) : Except ReadError (Field Json Json) := Shape.readField value

namespace Event

open Schema

/-- A legacy name that is null is none. -/
def readLegacyName (entries : List (String × Json)) : Option Json :=
  match Json.lookup? legacyNameKey entries with
  | some .null => none
  | other => other

/-- The tag around the payload has to be the one of an event. -/
def readArgument (entries : List (String × Json)) : Except ReadError Json := do
  let name := (Json.lookup? nameKey entries).getD .null
  match ← Json.required annotationKey entries with
  | .object annotation =>
      match (Json.lookup? typeKey annotation).getD .null with
      | .string tag =>
          if tag = eventTag then Json.required argumentKey annotation
          else .error (.unexpectedTag name (.string tag))
      | tag => .error (.unexpectedTag name tag)
  | _ => .error .annotationNotAnObject

/-- The payload is read before the name and the dispatch. -/
def read : Json → Except ReadError (Event Json Json)
  | .object entries => do
      let argument ← readArgument entries
      match ← Shape.read argument with
      | .object fields =>
          let name ← Json.required nameKey entries
          let dispatch ← Json.required dispatchKey entries >>= Dispatch.read
          return ⟨name, Shape.readFlag entries, dispatch, readLegacyName entries, fields⟩
      | _ => .error (.payloadNotAnObject ((Json.lookup? nameKey entries).getD .null))
  | _ => .error .eventNotAnObject

end Event

end ComponentEvents
