/-
This file turns the members of a payload into the fields of a schema.
-/

import ComponentEvents.Extraction.Basic
import ComponentEvents.Schema.Basic

namespace ComponentEvents.Payload

open Extraction

def unsupported {α : Type} (name kind : String) : Extraction α :=
  fail (.unsupportedProperty name kind)

mutual

/-- A union with a nullish arm is an optional field of the shape of its first other arm, and a
union of texts is an enumeration. -/
def field (config : Config) (name : String) (optional : Bool) :
    TypeExpr → Extraction (Field String Bool)
  | .parenthesized inner => field config name optional inner
  | .keyword .boolean => return .mk name optional (.scalar .boolean)
  | .keyword .string => return .mk name optional (.scalar .string)
  | .reference target arguments =>
      match Scalar.ofTypeName? target with
      | some scalar => return .mk name optional (.scalar scalar)
      | none =>
          match arguments with
          | first :: _ =>
              if target = TypeExpr.readonlyName then field config name optional first
              else unsupported name target
          | [] => unsupported name target
  | .object members => do
      let fields ← memberFields config members
      return .mk name optional (.object fields)
  | .union arms =>
      if TypeExpr.hasNullish arms then do
        monadLift (Logged.noteDropped config (.propertyArmsDropped name) arms)
        firstField config name arms
      else
        match arms.mapM TypeExpr.stringLiteral? with
        | some (first :: rest) => return .mk name optional (.stringEnum first rest)
        | _ => unsupported name (TypeExpr.nodeKind (.union arms))
  | other => unsupported name other.kindLabel

/-- The first arm that is not nullish makes an optional field. -/
def firstField (config : Config) (name : String) :
    List TypeExpr → Extraction (Field String Bool)
  | [] => unsupported name (TypeExpr.nodeKind (.union []))
  | arm :: arms =>
      if arm.isNullish then firstField config name arms else field config name true arm

/-- Only properties are fields. -/
def memberField (config : Config) : Member → Extraction (Field String Bool)
  | .property key type optional => field config key optional type
  | other => unsupported other.label other.nodeKind

def memberFields (config : Config) : List Member → Extraction (List (Field String Bool))
  | [] => return []
  | member :: members => do
      let first ← memberField config member
      let rest ← memberFields config members
      return first :: rest

end

/-- The first arm decides, and a union of nullish arms is not supported. -/
theorem firstField_eq (config : Config) (name : String) (arms : List TypeExpr) :
    firstField config name arms =
      match TypeExpr.otherArms arms with
      | [] => unsupported name (TypeExpr.nodeKind (.union []))
      | first :: _ => field config name true first := by
  induction arms with
  | nil => simp [firstField, TypeExpr.otherArms]
  | cons arm arms inductionHypothesis =>
      rw [firstField]
      cases nullish : arm.isNullish with
      | true => simpa [nullish] using inductionHypothesis
      | false => simp [nullish]

/-- The flag of a union with a nullish arm and its further arms have no part in its value. -/
theorem value_field_nullish (config : Config) (name : String) (optional : Bool)
    {arms rest : List TypeExpr} {first : TypeExpr} (nullish : TypeExpr.hasNullish arms = true)
    (others : TypeExpr.otherArms arms = first :: rest) :
    (field config name optional (.union arms)).run.value =
      (field config name true first).run.value := by
  rw [field, if_pos nullish, run_bind_ok rfl, firstField_eq, others]

/-- A member has no shape. -/
def nodeField (config : Config) (name : String) (optional : Bool) :
    Node → Extraction (Field String Bool)
  | .type type => field config name optional type
  | .member member => unsupported name member.nodeKind

end ComponentEvents.Payload
