/-
This file extracts events where a rule says what becomes of the arms that a union drops.
-/

import ComponentEvents.Extraction.Events

namespace ComponentEvents

/-- The rule is given the arms of every union that its first arm which is not nullish stands for,
once in the search for a handler and once in a field of the name. -/
structure DropRule where
  handlerArms : List TypeExpr → Extraction Unit
  propertyArms : String → List TypeExpr → Extraction Unit

namespace DropRule

open Extraction

/-- Dropped arms are noted where the configuration asks for it. -/
def noting (config : Config) : DropRule where
  handlerArms arms := monadLift (Logged.noteDropped config .handlerArmsDropped arms)
  propertyArms name arms := monadLift (Logged.noteDropped config (.propertyArmsDropped name) arms)

/-- It is a failure to drop an arm. -/
def refuse (cause : Cause) (arms : List TypeExpr) : Extraction Unit :=
  if 1 < (TypeExpr.otherArms arms).length then fail cause else pure ()

/-- No arm is ever dropped. -/
def refusing (cause : Cause) : DropRule where
  handlerArms := refuse cause
  propertyArms _ := refuse cause

mutual

def detect (rule : DropRule) (optional : Bool) : TypeExpr → Extraction (Option Handler)
  | .parenthesized inner => detect rule optional inner
  | .union arms => do
      rule.handlerArms arms
      detectFirst rule (optional || TypeExpr.hasNullish arms) arms
  | .reference name arguments =>
      pure ((Dispatch.ofWrapperName? name).map fun dispatch => ⟨dispatch, arguments, optional⟩)
  | _ => pure none

def detectFirst (rule : DropRule) (optional : Bool) : List TypeExpr → Extraction (Option Handler)
  | [] => pure none
  | arm :: arms =>
      if arm.isNullish then detectFirst rule optional arms else detect rule optional arm

end

mutual

def field (rule : DropRule) (name : String) (optional : Bool) :
    TypeExpr → Extraction (Field String Bool)
  | .parenthesized inner => field rule name optional inner
  | .keyword .boolean => return .mk name optional (.scalar .boolean)
  | .keyword .string => return .mk name optional (.scalar .string)
  | .reference target arguments =>
      match Scalar.ofTypeName? target with
      | some scalar => return .mk name optional (.scalar scalar)
      | none =>
          match arguments with
          | first :: _ =>
              if target = TypeExpr.readonlyName then field rule name optional first
              else Payload.unsupported name target
          | [] => Payload.unsupported name target
  | .object members => do
      let fields ← memberFields rule members
      return .mk name optional (.object fields)
  | .union arms =>
      if TypeExpr.hasNullish arms then do
        rule.propertyArms name arms
        firstField rule name arms
      else
        match arms.mapM TypeExpr.stringLiteral? with
        | some (first :: rest) => return .mk name optional (.stringEnum first rest)
        | _ => Payload.unsupported name (TypeExpr.nodeKind (.union arms))
  | other => Payload.unsupported name other.kindLabel

def firstField (rule : DropRule) (name : String) :
    List TypeExpr → Extraction (Field String Bool)
  | [] => Payload.unsupported name (TypeExpr.nodeKind (.union []))
  | arm :: arms => if arm.isNullish then firstField rule name arms else field rule name true arm

def memberField (rule : DropRule) : Member → Extraction (Field String Bool)
  | .property key type optional => field rule key optional type
  | other => Payload.unsupported other.label other.nodeKind

def memberFields (rule : DropRule) : List Member → Extraction (List (Field String Bool))
  | [] => return []
  | member :: members => do
      let first ← memberField rule member
      let rest ← memberFields rule members
      return first :: rest

end

/-- The walk to the payload drops no arms. -/
def handlerEvent (rule : DropRule) (config : Config) (declarations : Declarations) (name : String)
    (handler : Handler) : Extraction (Event String Bool) := do
  let resolution ← Payload.resolve config declarations [] none none handler.reference
  match resolution.members, resolution.dispatch with
  | some members, some dispatch => do
      let fields ← rule.memberFields members
      return ⟨name, handler.optional, dispatch, resolution.legacyName, fields⟩
  | _, _ => fail (.unresolvedArguments name)

def memberEvent (rule : DropRule) (config : Config) (declarations : Declarations) :
    Member → Extraction (Option (Event String Bool))
  | .property key type optional => do
      match ← rule.detect optional type with
      | none =>
          note (.notHandler key)
          return none
      | some handler =>
          let event ← inEvent key (rule.handlerEvent config declarations key handler)
          return some event
  | other => do
      note (.skipped other.nodeKind)
      return none

def memberEvents (rule : DropRule) (config : Config) (declarations : Declarations) :
    List Member → Extraction (List (Event String Bool))
  | [] => return []
  | member :: members => do
      let first ← rule.memberEvent config declarations member
      let rest ← rule.memberEvents config declarations members
      return first.toList ++ rest

def events (rule : DropRule) (config : Config) (declarations : Declarations)
    (members : List Member) : Extraction (List (Event String Bool)) := do
  let found ← rule.memberEvents config declarations members
  note (.extracted found.length members.length)
  return found

section Noting

variable {config : Config}

mutual

/-- An extraction that notes what it drops searches for handlers in this way. -/
theorem detect_noting (optional : Bool) : ∀ type,
    (noting config).detect optional type = monadLift (Handler.detect config optional type)
  | .parenthesized inner => by
      rw [detect, Handler.detect]
      exact detect_noting optional inner
  | .union arms => by
      rw [detect, Handler.detect, monadLift_bind, detectFirst_noting _ arms]
      rfl
  | .reference _ _ | .keyword _ | .literal _ | .intersection _ | .object _
  | .interfaceDecl _ _ _ | .aliasDecl _ _ => by
      simp only [detect, Handler.detect, monadLift_pure]

theorem detectFirst_noting (optional : Bool) : ∀ arms,
    (noting config).detectFirst optional arms =
      monadLift (Handler.detectFirst config optional arms)
  | [] => by
      rw [detectFirst, Handler.detectFirst, monadLift_pure]
  | arm :: arms => by
      rw [detectFirst, Handler.detectFirst, detectFirst_noting optional arms,
        detect_noting optional arm]
      split <;> rfl

end

mutual

/-- An extraction that notes what it drops makes fields in this way. -/
theorem field_noting (name : String) (optional : Bool) : ∀ type,
    (noting config).field name optional type = Payload.field config name optional type
  | .parenthesized inner => by
      rw [field, Payload.field]
      exact field_noting name optional inner
  | .reference target arguments => by
      unfold field Payload.field
      cases Scalar.ofTypeName? target with
      | some scalar => rfl
      | none =>
          cases arguments with
          | nil => rfl
          | cons first rest =>
              by_cases readonly : target = TypeExpr.readonlyName
              · simp only [if_pos readonly]
                exact field_noting name optional first
              · simp only [if_neg readonly]
  | .object members => by
      rw [field, Payload.field, memberFields_noting members]
  | .union arms => by
      rw [field, Payload.field, firstField_noting name arms]
      rfl
  | .keyword keyword => by
      cases keyword <;> simp only [field, Payload.field]
  | .literal _ | .intersection _ | .interfaceDecl _ _ _ | .aliasDecl _ _ => by
      simp only [field, Payload.field]

theorem firstField_noting (name : String) : ∀ arms,
    (noting config).firstField name arms = Payload.firstField config name arms
  | [] => by
      rw [firstField, Payload.firstField]
  | arm :: arms => by
      rw [firstField, Payload.firstField, firstField_noting name arms, field_noting name true arm]

theorem memberField_noting : ∀ member,
    (noting config).memberField member = Payload.memberField config member
  | .property key type optional => by
      rw [memberField, Payload.memberField]
      exact field_noting key optional type
  | .method _ | .index _ _ | .call _ | .spread _ => by
      simp only [memberField, Payload.memberField]

theorem memberFields_noting : ∀ members,
    (noting config).memberFields members = Payload.memberFields config members
  | [] => by
      rw [memberFields, Payload.memberFields]
  | member :: members => by
      rw [memberFields, Payload.memberFields, memberField_noting member,
        memberFields_noting members]

end

variable {declarations : Declarations}

theorem handlerEvent_noting (name : String) (handler : Handler) :
    (noting config).handlerEvent config declarations name handler =
      Extraction.handlerEvent config declarations name handler := by
  unfold handlerEvent Extraction.handlerEvent
  refine bind_congr fun resolution => ?_
  obtain ⟨members, dispatch, legacy⟩ := resolution
  cases members with
  | none => rfl
  | some members =>
      cases dispatch with
      | none => rfl
      | some dispatch => simp only [memberFields_noting]

theorem memberEvent_noting (member : Member) :
    (noting config).memberEvent config declarations member =
      Extraction.memberEvent config declarations member := by
  cases member with
  | property key type optional =>
      rw [memberEvent, Extraction.memberEvent, propertyEvent, detect_noting]
      refine bind_congr fun found => ?_
      cases found with
      | none => rfl
      | some handler => simp only [handlerEvent_noting]
  | _ => rfl

theorem memberEvents_noting (members : List Member) :
    (noting config).memberEvents config declarations members =
      Extraction.memberEvents config declarations members := by
  induction members with
  | nil => rfl
  | cons member members inductionHypothesis =>
      rw [memberEvents, Extraction.memberEvents, memberEvent_noting, inductionHypothesis]

/-- An extraction notes what it drops. -/
theorem events_noting (config : Config) (declarations : Declarations) (members : List Member) :
    (noting config).events config declarations members =
      Extraction.events config declarations members := by
  rw [events, Extraction.events, memberEvents_noting]

end Noting

end DropRule
end ComponentEvents
