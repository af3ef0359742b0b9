/-
This file holds the schema of an event.
-/

import ComponentEvents.Dispatch

namespace ComponentEvents

/-- These are the shapes without parts. -/
inductive Scalar where
  | boolean
  | string
  | int32
  | double
  | float
  deriving DecidableEq, Repr

namespace Scalar

def all : List Scalar := [boolean, string, int32, double, float]

/-- This is the tag of the shape in a schema. -/
def tag : Scalar → String
  | boolean => "BooleanTypeAnnotation"
  | string => "StringTypeAnnotation"
  | int32 => "Int32TypeAnnotation"
  | double => "DoubleTypeAnnotation"
  | float => "FloatTypeAnnotation"

def ofTag? (tag : String) : Option Scalar := all.find? fun scalar => scalar.tag = tag

@[simp] theorem ofTag?_tag (scalar : Scalar) : ofTag? scalar.tag = some scalar := by
  cases scalar <;> rfl

/-- Three names of numbers are known to every component. -/
def ofTypeName? (name : String) : Option Scalar :=
  if name = "Int32" then some int32
  else if name = "Double" then some double
  else if name = "Float" then some float
  else none

end Scalar

mutual

/-- Names and options are labels. An enumeration has at least one option. -/
inductive Shape (Label Flag : Type) where
  | scalar (kind : Scalar)
  | stringEnum (first : Label) (rest : List Label)
  | object (fields : List (Field Label Flag))

/-- A field has a name, a flag that tells whether it may be missing, and a shape. -/
inductive Field (Label Flag : Type) where
  | mk (name : Label) (optional : Flag) (shape : Shape Label Flag)

end

/-- The payload of an event is an object with these fields. -/
structure Event (Label Flag : Type) where
  name : Label
  optional : Flag
  dispatch : Dispatch
  legacyName : Option Label
  fields : List (Field Label Flag)

namespace Field

variable {Label Flag : Type}

def name : Field Label Flag → Label
  | .mk name _ _ => name

def optional : Field Label Flag → Flag
  | .mk _ optional _ => optional

def shape : Field Label Flag → Shape Label Flag
  | .mk _ _ shape => shape

end Field

namespace Shape

variable {Label Flag Label' Flag' : Type} (label : Label → Label') (flag : Flag → Flag')

mutual

/-- This function changes every label and every flag. -/
def map : Shape Label Flag → Shape Label' Flag'
  | .scalar kind => .scalar kind
  | .stringEnum first rest => .stringEnum (label first) (rest.map label)
  | .object fields => .object (mapFields fields)

def mapField : Field Label Flag → Field Label' Flag'
  | .mk name optional shape => .mk (label name) (flag optional) (map shape)

def mapFields : List (Field Label Flag) → List (Field Label' Flag')
  | [] => []
  | field :: fields => mapField field :: mapFields fields

end

end Shape

/-- This function changes every label and every flag of an event. -/
def Event.map {Label Flag Label' Flag' : Type} (label : Label → Label') (flag : Flag → Flag')
    (event : Event Label Flag) : Event Label' Flag' where
  name := label event.name
  optional := flag event.optional
  dispatch := event.dispatch
  legacyName := event.legacyName.map label
  fields := Shape.mapFields label flag event.fields

end ComponentEvents
