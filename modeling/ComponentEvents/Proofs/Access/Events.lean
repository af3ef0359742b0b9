/-
This file extracts events by steps that take what is there, and shows that it is.
-/

import ComponentEvents.Extraction.Events
import ComponentEvents.Proofs.Access.Walk

namespace ComponentEvents.Unchecked

open TypeExpr

theorem sizeOf_otherArm {arms : List TypeExpr} {arm : TypeExpr} (other : arm ∈ otherArms arms) :
    sizeOf arm < sizeOf arms :=
  List.sizeOf_lt_of_mem (List.mem_filter.mp other).1

/-- An arm is taken where there is one that is not nullish. -/
def detect (config : Config) (optional : Bool) : TypeExpr → Unchecked (Option Handler)
  | .parenthesized inner => detect config optional inner
  | .union arms =>
      if (otherArms arms).isEmpty then return none
      else do
        let first ← firstArm (otherArms arms)
        monadLift (Logged.noteDropped config .handlerArmsDropped arms)
        detect config (optional || hasNullish arms) first.val
  | .reference name arguments =>
      return (Dispatch.ofWrapperName? name).map fun dispatch => ⟨dispatch, arguments, optional⟩
  | _ => return none
termination_by type => sizeOf type
decreasing_by
  · simp only [TypeExpr.parenthesized.sizeOf_spec]
    omega
  · have smaller := sizeOf_otherArm first.property
    simp only [TypeExpr.union.sizeOf_spec]
    omega

def unsupported {α : Type} (name kind : String) : Unchecked α :=
  fail (.unsupportedProperty name kind)

mutual

/-- An enumeration is made where there is an option. -/
def field (config : Config) (name : String) (optional : Bool) :
    TypeExpr → Unchecked (Field String Bool)
  | .parenthesized inner => field config name optional inner
  | .keyword .boolean => return .mk name optional (.scalar .boolean)
  | .keyword .string => return .mk name optional (.scalar .string)
  | .reference target arguments =>
      match Scalar.ofTypeName? target with
      | some scalar => return .mk name optional (.scalar scalar)
      | none =>
          if target = readonlyName ∧ ¬arguments.isEmpty then do
            let first ← argument arguments 0
            field config name optional first.val
          else unsupported name target
  | .object members => do
      let fields ← memberFields config members
      return .mk name optional (.object fields)
  | .union arms =>
      if hasNullish arms then
        if (otherArms arms).isEmpty then unsupported name (nodeKind (.union arms))
        else do
          let first ← firstArm (otherArms arms)
          monadLift (Logged.noteDropped config (.propertyArmsDropped name) arms)
          field config name true first.val
      else if ¬arms.isEmpty ∧ arms.all fun arm => arm.stringLiteral?.isSome then do
        let shape ← enumeration (arms.filterMap stringLiteral?)
        return .mk name optional shape
      else unsupported name (nodeKind (.union arms))
  | other => unsupported name other.kindLabel
termination_by type => sizeOf type
decreasing_by
  · simp only [TypeExpr.parenthesized.sizeOf_spec]
    omega
  · have smaller := List.sizeOf_lt_of_mem first.property
    simp only [TypeExpr.reference.sizeOf_spec]
    omega
  · simp only [TypeExpr.object.sizeOf_spec]
    omega
  · have smaller := sizeOf_otherArm first.property
    simp only [TypeExpr.union.sizeOf_spec]
    omega

def memberField (config : Config) : Member → Unchecked (Field String Bool)
  | .property key type optional => field config key optional type
  | other => unsupported other.label other.nodeKind
termination_by member => sizeOf member
decreasing_by
  simp only [Member.property.sizeOf_spec]
  omega

def memberFields (config : Config) : List Member → Unchecked (List (Field String Bool))
  | [] => return []
  | member :: members => do
      let first ← memberField config member
      let rest ← memberFields config members
      return first :: rest
termination_by members => sizeOf members
decreasing_by
  · simp only [List.cons.sizeOf_spec]
    omega
  · simp only [List.cons.sizeOf_spec]
    omega

end

def handlerEvent (config : Config) (declarations : Declarations) (name : String)
    (handler : Handler) : Unchecked (Event String Bool) := do
  let resolution ← resolve config declarations [] none none handler.reference
  match resolution.members, resolution.dispatch with
  | some members, some dispatch => do
      let fields ← memberFields config members
      return ⟨name, handler.optional, dispatch, resolution.legacyName, fields⟩
  | _, _ => fail (.unresolvedArguments name)

def memberEvent (config : Config) (declarations : Declarations) :
    Member → Unchecked (Option (Event String Bool))
  | .property key type optional => do
      match ← detect config optional type with
      | none => do
          monadLift (Extraction.note (.notHandler key))
          return none
      | some handler => do
          let event ← inEvent key (handlerEvent config declarations key handler)
          return some event
  | other => do
      monadLift (Extraction.note (.skipped other.nodeKind))
      return none

def memberEvents (config : Config) (declarations : Declarations) :
    List Member → Unchecked (List (Event String Bool))
  | [] => return []
  | member :: members => do
      let first ← memberEvent config declarations member
      let rest ← memberEvents config declarations members
      return first.toList ++ rest

def events (config : Config) (declarations : Declarations) (members : List Member) :
    Unchecked (List (Event String Bool)) := do
  let found ← memberEvents config declarations members
  monadLift (Extraction.note (.extracted found.length members.length))
  return found

variable {config : Config} {declarations : Declarations}

/-- No step of the search for a handler takes what is missing. -/
theorem detect_eq (optional : Bool) : ∀ type,
    detect config optional type = monadLift (Handler.detect config optional type)
  | .reference name arguments => by
      rw [detect, Handler.detect, monadLift_pure]
  | .parenthesized inner => by
      rw [detect, Handler.detect]
      exact detect_eq optional inner
  | .union arms => by
      rw [detect, Handler.detect, Handler.detectFirst_eq]
      cases others : otherArms arms with
      | nil =>
          simp only [Logged.noteDropped, others]
          rfl
      | cons first rest =>
          have smaller := sizeOf_otherArm (others ▸ List.mem_cons_self : first ∈ otherArms arms)
          simp only [List.isEmpty_cons, Bool.false_eq_true, if_false, firstArm_cons, pure_bind,
            monadLift_bind, detect_eq _ first]
  | .keyword _ | .literal _ | .intersection _ | .object _ | .interfaceDecl _ _ _
  | .aliasDecl _ _ => by
      simp [detect, Handler.detect]
termination_by type => sizeOf type

/-- Where all arms are texts, these are their texts. -/
theorem mapM_stringLiteral?_eq (arms : List TypeExpr) :
    arms.mapM stringLiteral? =
      if arms.all fun arm => arm.stringLiteral?.isSome then some (arms.filterMap stringLiteral?)
      else none := by
  induction arms with
  | nil => rfl
  | cons arm arms inductionHypothesis =>
      rw [List.mapM_cons, inductionHypothesis]
      cases text : arm.stringLiteral? with
      | none => simp [text]
      | some value =>
          cases texts : arms.all fun arm => arm.stringLiteral?.isSome <;> simp [text, texts]

/-- An enumeration of texts has an option where its union has an arm. -/
theorem enumeration_eq (name : String) (optional : Bool) (arms : List TypeExpr) :
    (if ¬arms.isEmpty ∧ arms.all fun arm => arm.stringLiteral?.isSome then do
        let shape ← enumeration (arms.filterMap stringLiteral?)
        return Field.mk name optional shape
      else unsupported name (nodeKind (.union arms)) : Unchecked (Field String Bool)) =
      monadLift (match arms.mapM stringLiteral? with
        | some (first :: rest) => return Field.mk name optional (.stringEnum first rest)
        | _ => Payload.unsupported name (nodeKind (.union arms)) :
          Extraction (Field String Bool)) := by
  rw [mapM_stringLiteral?_eq]
  cases arms with
  | nil => rfl
  | cons arm arms =>
      cases text : arm.stringLiteral? with
      | none =>
          simp only [List.isEmpty_cons, Bool.false_eq_true, not_false_eq_true, List.all_cons, text,
            Option.isSome_none, Bool.false_and, and_false, if_false]
          rfl
      | some value =>
          cases texts : arms.all fun arm => arm.stringLiteral?.isSome with
          | false =>
              simp only [List.isEmpty_cons, Bool.false_eq_true, not_false_eq_true, List.all_cons,
                text, Option.isSome_some, texts, Bool.and_false, and_false, if_false]
              rfl
          | true => simp [text, texts, enumeration_cons]

mutual

/-- No step that makes a field takes what is missing. -/
theorem field_eq (name : String) (optional : Bool) : ∀ type,
    field config name optional type = monadLift (Payload.field config name optional type)
  | .parenthesized inner => by
      rw [field, Payload.field]
      exact field_eq name optional inner
  | .keyword word => by
      cases word <;> simp only [field, Payload.field, monadLift_pure] <;> rfl
  | .reference target arguments => by
      unfold field Payload.field
      cases Scalar.ofTypeName? target with
      | some scalar => rfl
      | none =>
          cases arguments with
          | nil =>
              simp only [List.isEmpty_nil, not_true_eq_false, and_false, if_false]
              rfl
          | cons first rest =>
              by_cases readonly : target = readonlyName
              · simp [readonly, field_eq name optional first]
              · simp only [readonly, false_and, if_false]
                rfl
  | .object members => by
      rw [field, Payload.field, memberFields_eq members, monadLift_bind]
      simp only [monadLift_pure]
  | .union arms => by
      rw [field, Payload.field]
      cases hasNullish arms with
      | false => exact enumeration_eq name optional arms
      | true =>
          rw [if_pos rfl, if_pos rfl, Payload.firstField_eq]
          cases others : otherArms arms with
          | nil =>
              simp only [Logged.noteDropped, others]
              rfl
          | cons first rest =>
              have smaller := sizeOf_otherArm (others ▸ List.mem_cons_self : first ∈ otherArms arms)
              simp only [List.isEmpty_cons, Bool.false_eq_true, if_false, firstArm_cons, pure_bind,
                monadLift_bind, field_eq name true first]
              rfl
  | .literal _ | .intersection _ | .interfaceDecl _ _ _ | .aliasDecl _ _ => by
      simp only [field, Payload.field]
      rfl
termination_by type => sizeOf type

theorem memberField_eq : ∀ member,
    memberField config member = monadLift (Payload.memberField config member)
  | .property key type optional => by
      rw [memberField, Payload.memberField]
      exact field_eq key optional type
  | .method _ | .index _ _ | .call _ | .spread _ => by
      simp only [memberField, Payload.memberField]
      rfl
termination_by member => sizeOf member

theorem memberFields_eq : ∀ members,
    memberFields config members = monadLift (Payload.memberFields config members)
  | [] => by
      rw [memberFields, Payload.memberFields, monadLift_pure]
  | member :: members => by
      rw [memberFields, Payload.memberFields, memberField_eq member, memberFields_eq members]
      simp only [monadLift_bind, monadLift_pure]
termination_by members => sizeOf members

end

theorem handlerEvent_eq (name : String) (handler : Handler) :
    handlerEvent config declarations name handler =
      monadLift (Extraction.handlerEvent config declarations name handler) := by
  rw [handlerEvent, Extraction.handlerEvent, resolve_eq, monadLift_bind]
  refine bind_congr ?_
  intro resolution
  obtain ⟨members, dispatch, legacy⟩ := resolution
  cases members with
  | none => rfl
  | some members =>
      cases dispatch with
      | none => rfl
      | some dispatch => simp only [memberFields_eq, monadLift_bind, monadLift_pure]

theorem memberEvent_eq (member : Member) :
    memberEvent config declarations member =
      monadLift (Extraction.memberEvent config declarations member) := by
  cases member with
  | property key type optional =>
      rw [memberEvent, detect_eq, Extraction.memberEvent, Extraction.propertyEvent, monadLift_bind]
      refine bind_congr ?_
      intro found
      cases found with
      | none => simp only [monadLift_bind, monadLift_pure]
      | some handler =>
          simp only [handlerEvent_eq, inEvent_monadLift, monadLift_bind, monadLift_pure]
  | _ => simp only [memberEvent, Extraction.memberEvent, monadLift_bind, monadLift_pure]

theorem memberEvents_eq (members : List Member) :
    memberEvents config declarations members =
      monadLift (Extraction.memberEvents config declarations members) := by
  induction members with
  | nil => rw [memberEvents, Extraction.memberEvents, monadLift_pure]
  | cons member members inductionHypothesis =>
      rw [memberEvents, Extraction.memberEvents, memberEvent_eq, inductionHypothesis]
      simp only [monadLift_bind, monadLift_pure]

/-- Nothing that an extraction takes is missing. -/
theorem events_eq (config : Config) (declarations : Declarations) (members : List Member) :
    events config declarations members =
      monadLift (Extraction.events config declarations members) := by
  rw [events, Extraction.events, memberEvents_eq]
  simp only [monadLift_bind, monadLift_pure]

end ComponentEvents.Unchecked
