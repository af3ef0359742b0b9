/-
This file gives the grammar of the values that are schemas and the first violation of it.
-/

import ComponentEvents.Schema.Reader

namespace ComponentEvents

open Schema

/-- The parts of a list are its items, those of a text its characters and those of an object its
keys. -/
def Json.partCount? : Json → Option Nat
  | .array items => some items.length
  | .string text => some text.length
  | .object entries => some entries.length
  | _ => none

namespace Shape

mutual

/-- The tag of a shape tells which other entry it needs. -/
inductive Readable : Json → Prop
  | scalar {entries : List (String × Json)} (kind : Scalar)
      (tagged : Json.lookup? typeKey entries = some (.string (ShapeTag.scalar kind).text)) :
      Readable (.object entries)
  | stringEnum {entries : List (String × Json)} {options : Json} {count : Nat}
      (tagged : Json.lookup? typeKey entries = some (.string ShapeTag.stringEnum.text))
      (given : Json.lookup? optionsKey entries = some options)
      (parts : options.partCount? = some (count + 1)) : Readable (.object entries)
  | noFields {entries : List (String × Json)}
      (tagged : Json.lookup? typeKey entries = some (.string ShapeTag.object.text))
      (missing : Json.lookup? propertiesKey entries = none) : Readable (.object entries)
  | emptyText {entries : List (String × Json)}
      (tagged : Json.lookup? typeKey entries = some (.string ShapeTag.object.text))
      (given : Json.lookup? propertiesKey entries = some (.string "")) :
      Readable (.object entries)
  | emptyObject {entries : List (String × Json)}
      (tagged : Json.lookup? typeKey entries = some (.string ShapeTag.object.text))
      (given : Json.lookup? propertiesKey entries = some (.object [])) :
      Readable (.object entries)
  | fields {entries : List (String × Json)} {items : List Json}
      (tagged : Json.lookup? typeKey entries = some (.string ShapeTag.object.text))
      (given : Json.lookup? propertiesKey entries = some (.array items))
      (each : ∀ item ∈ items, ReadableField item) : Readable (.object entries)

/-- A field needs a name and a shape. -/
inductive ReadableField : Json → Prop
  | mk {entries : List (String × Json)} {name shape : Json}
      (named : Json.lookup? nameKey entries = some name)
      (given : Json.lookup? annotationKey entries = some shape)
      (inner : Readable shape) : ReadableField (.object entries)

end

mutual

/-- This is the first violation of the grammar, with the class of the error. The tag is looked at
first, and the fields are looked into one after the other. -/
inductive Violates : Json → ReadErrorClass → ReadError → Prop
  | notAnObject {value : Json} (other : ∀ entries, value ≠ .object entries) :
      Violates value .attributeError .shapeNotAnObject
  | tagIsArray {entries : List (String × Json)} {items : List Json}
      (tag : Json.lookup? typeKey entries = some (.array items)) :
      Violates (.object entries) .typeError .tagNotAScalar
  | tagIsObject {entries inner : List (String × Json)}
      (tag : Json.lookup? typeKey entries = some (.object inner)) :
      Violates (.object entries) .typeError .tagNotAScalar
  | unknownTag {entries : List (String × Json)} {tag : Json}
      (given : (Json.lookup? typeKey entries).getD .null = tag)
      (notArray : ∀ items, tag ≠ .array items) (notObject : ∀ inner, tag ≠ .object inner)
      (unknown : ∀ known : ShapeTag, tag ≠ .string known.text) :
      Violates (.object entries) .valueError (.unknownTag tag)
  | noOptionsEntry {entries : List (String × Json)}
      (tagged : Json.lookup? typeKey entries = some (.string ShapeTag.stringEnum.text))
      (missing : Json.lookup? optionsKey entries = none) :
      Violates (.object entries) .keyError (.missing optionsKey)
  | optionsWithoutParts {entries : List (String × Json)} {options : Json}
      (tagged : Json.lookup? typeKey entries = some (.string ShapeTag.stringEnum.text))
      (given : Json.lookup? optionsKey entries = some options)
      (parts : options.partCount? = none) : Violates (.object entries) .typeError .notAList
  | noOptions {entries : List (String × Json)} {options : Json}
      (tagged : Json.lookup? typeKey entries = some (.string ShapeTag.stringEnum.text))
      (given : Json.lookup? optionsKey entries = some options)
      (parts : options.partCount? = some 0) : Violates (.object entries) .valueError .noOptions
  | fieldsWithoutParts {entries : List (String × Json)} {fields : Json}
      (tagged : Json.lookup? typeKey entries = some (.string ShapeTag.object.text))
      (given : Json.lookup? propertiesKey entries = some fields)
      (parts : fields.partCount? = none) : Violates (.object entries) .typeError .notAList
  | fieldsInText {entries : List (String × Json)} {text : String}
      (tagged : Json.lookup? typeKey entries = some (.string ShapeTag.object.text))
      (given : Json.lookup? propertiesKey entries = some (.string text)) (filled : text ≠ "") :
      Violates (.object entries) .typeError .fieldNotAnObject
  | fieldsInObject {entries inner : List (String × Json)}
      (tagged : Json.lookup? typeKey entries = some (.string ShapeTag.object.text))
      (given : Json.lookup? propertiesKey entries = some (.object inner)) (filled : inner ≠ []) :
      Violates (.object entries) .typeError .fieldNotAnObject
  | field {entries : List (String × Json)} {before after : List Json} {item : Json}
      {kind : ReadErrorClass} {error : ReadError}
      (tagged : Json.lookup? typeKey entries = some (.string ShapeTag.object.text))
      (given : Json.lookup? propertiesKey entries = some (.array (before ++ item :: after)))
      (earlier : ∀ other ∈ before, ReadableField other) (first : ViolatesField item kind error) :
      Violates (.object entries) kind error

/-- The name of a field is looked for before its shape. -/
inductive ViolatesField : Json → ReadErrorClass → ReadError → Prop
  | notAnObject {value : Json} (other : ∀ entries, value ≠ .object entries) :
      ViolatesField value .typeError .fieldNotAnObject
  | unnamed {entries : List (String × Json)} (missing : Json.lookup? nameKey entries = none) :
      ViolatesField (.object entries) .keyError (.missing nameKey)
  | noShape {entries : List (String × Json)} {name : Json}
      (named : Json.lookup? nameKey entries = some name)
      (missing : Json.lookup? annotationKey entries = none) :
      ViolatesField (.object entries) .keyError (.missing annotationKey)
  | shape {entries : List (String × Json)} {name shape : Json} {kind : ReadErrorClass}
      {error : ReadError} (named : Json.lookup? nameKey entries = some name)
      (given : Json.lookup? annotationKey entries = some shape)
      (inner : Violates shape kind error) : ViolatesField (.object entries) kind error

end

end Shape

namespace Event

/-- The argument of an event stands in an entry that has the tag of an event. -/
def HasArgument (entries : List (String × Json)) (argument : Json) : Prop :=
  ∃ holder, Json.lookup? annotationKey entries = some (.object holder) ∧
    Json.lookup? typeKey holder = some (.string eventTag) ∧
    Json.lookup? argumentKey holder = some argument

/-- The argument of an event is a shape with fields. -/
def HasFields (entries : List (String × Json)) : Prop :=
  ∃ inner, HasArgument entries (.object inner) ∧ Shape.Readable (.object inner) ∧
    Json.lookup? typeKey inner = some (.string ShapeTag.object.text)

/-- An event needs an argument with fields, a name and one of the known dispatches. -/
inductive Readable : Json → Prop
  | mk {entries : List (String × Json)} {name : Json} (dispatch : Dispatch)
      (payload : HasFields entries) (named : Json.lookup? nameKey entries = some name)
      (dispatched : Json.lookup? dispatchKey entries = some (.string dispatch.text)) :
      Readable (.object entries)

/-- This is the first violation of the grammar of events, with the class of the error. The argument
is looked into before the name and the dispatch. -/
inductive Violates : Json → ReadErrorClass → ReadError → Prop
  | notAnObject {value : Json} (other : ∀ entries, value ≠ .object entries) :
      Violates value .typeError .eventNotAnObject
  | annotationMissing {entries : List (String × Json)}
      (missing : Json.lookup? annotationKey entries = none) :
      Violates (.object entries) .keyError (.missing annotationKey)
  | annotationNotAnObject {entries : List (String × Json)} {holder : Json}
      (given : Json.lookup? annotationKey entries = some holder)
      (other : ∀ inner, holder ≠ .object inner) :
      Violates (.object entries) .attributeError .annotationNotAnObject
  | otherTag {entries holder : List (String × Json)} {tag : Json}
      (given : Json.lookup? annotationKey entries = some (.object holder))
      (found : (Json.lookup? typeKey holder).getD .null = tag)
      (other : tag ≠ .string eventTag) :
      Violates (.object entries) .valueError
        (.unexpectedTag ((Json.lookup? nameKey entries).getD .null) tag)
  | noArgument {entries holder : List (String × Json)}
      (given : Json.lookup? annotationKey entries = some (.object holder))
      (tagged : Json.lookup? typeKey holder = some (.string eventTag))
      (missing : Json.lookup? argumentKey holder = none) :
      Violates (.object entries) .keyError (.missing argumentKey)
  | argument {entries : List (String × Json)} {argument : Json} {kind : ReadErrorClass}
      {error : ReadError} (given : HasArgument entries argument)
      (inner : Shape.Violates argument kind error) : Violates (.object entries) kind error
  | argumentWithoutFields {entries inner : List (String × Json)}
      (given : HasArgument entries (.object inner)) (readable : Shape.Readable (.object inner))
      (other : Json.lookup? typeKey inner ≠ some (.string ShapeTag.object.text)) :
      Violates (.object entries) .valueError
        (.payloadNotAnObject ((Json.lookup? nameKey entries).getD .null))
  | unnamed {entries : List (String × Json)} (payload : HasFields entries)
      (missing : Json.lookup? nameKey entries = none) :
      Violates (.object entries) .keyError (.missing nameKey)
  | noDispatch {entries : List (String × Json)} {name : Json} (payload : HasFields entries)
      (named : Json.lookup? nameKey entries = some name)
      (missing : Json.lookup? dispatchKey entries = none) :
      Violates (.object entries) .keyError (.missing dispatchKey)
  | unknownDispatch {entries : List (String × Json)} {name value : Json}
      (payload : HasFields entries) (named : Json.lookup? nameKey entries = some name)
      (given : Json.lookup? dispatchKey entries = some value)
      (unknown : ∀ dispatch : Dispatch, value ≠ .string dispatch.text) :
      Violates (.object entries) .valueError (.unknownDispatch value)

end Event
end ComponentEvents
