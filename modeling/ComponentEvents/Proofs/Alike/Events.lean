/-
This file shows that alike members have the same events.
-/

import ComponentEvents.Extraction.Events
import ComponentEvents.Proofs.Alike.Fields
import ComponentEvents.Proofs.Alike.Walk

namespace ComponentEvents.Extraction

variable {rename : Renaming} {declarations declarations' : Declarations} (config : Config)

theorem handlerEvent_alike (tables : declarations.Alike rename declarations') (name : String)
    {handler handler' : Handler} (alike : handler.Alike rename handler') :
    AlikeOutcomes rename Eq (handlerEvent config declarations name handler).run.value
      (handlerEvent config declarations' name handler').run.value := by
  unfold handlerEvent
  refine (Payload.resolve_alike tables alike.reference).bind ?_
  rintro ⟨members, dispatch, legacy⟩ ⟨members', dispatch', legacy'⟩ ⟨alikeMembers, same, same'⟩
  obtain rfl : dispatch' = dispatch := same
  obtain rfl : legacy' = legacy := same'
  cases alikeMembers with
  | none => exact .error (.ofCause (.unresolvedArguments name))
  | some alikeMembers =>
      cases dispatch' with
      | none => exact .error (.ofCause (.unresolvedArguments name))
      | some dispatch =>
          refine (Payload.memberFields_alike config alikeMembers).bind ?_
          rintro fields _ rfl
          rw [alike.optional]
          exact .ok rfl

theorem propertyEvent_alike (tables : declarations.Alike rename declarations') (name : String)
    (optional : Bool) {type type' : TypeExpr} (alike : type.Alike rename type') :
    AlikeOutcomes rename Eq (propertyEvent config declarations name type optional).run.value
      (propertyEvent config declarations' name type' optional).run.value := by
  have found := Handler.detect_alike config optional alike
  have detected : AlikeOutcomes rename (Option.Rel (Handler.Alike rename))
      (monadLift (Handler.detect config optional type) : Extraction _).run.value
      (monadLift (Handler.detect config optional type') : Extraction _).run.value := by
    rw [run_monadLift, run_monadLift]
    exact .ok found
  unfold propertyEvent
  refine detected.bind ?_
  intro handler handler' related
  cases related with
  | none => exact .ok rfl
  | some alike =>
      refine ((handlerEvent_alike config tables name alike).inEvent name).bind ?_
      rintro event _ rfl
      exact .ok rfl

theorem memberEvent_alike (tables : declarations.Alike rename declarations')
    {member member' : Member} (alike : member.Alike rename member') :
    AlikeOutcomes rename Eq (memberEvent config declarations member).run.value
      (memberEvent config declarations' member').run.value := by
  cases alike with
  | property key optional alike => exact propertyEvent_alike config tables key optional alike
  | _ => exact .ok rfl

theorem memberEvents_alike (tables : declarations.Alike rename declarations')
    {members members' : List Member}
    (alike : List.Forall₂ (Member.Alike rename) members members') :
    AlikeOutcomes rename Eq (memberEvents config declarations members).run.value
      (memberEvents config declarations' members').run.value := by
  induction alike with
  | nil => exact .ok rfl
  | cons first _ inductionHypothesis =>
      rw [memberEvents, memberEvents]
      refine (memberEvent_alike config tables first).bind ?_
      rintro event _ rfl
      refine inductionHypothesis.bind ?_
      rintro found _ rfl
      exact .ok rfl

/-- Alike members with alike tables have the same events or fail alike. -/
theorem events_alike (tables : declarations.Alike rename declarations')
    {members members' : List Member}
    (alike : List.Forall₂ (Member.Alike rename) members members') :
    AlikeOutcomes rename Eq (events config declarations members).run.value
      (events config declarations' members').run.value := by
  rw [events, events]
  refine (memberEvents_alike config tables alike).bind ?_
  rintro found _ rfl
  exact .ok rfl

end ComponentEvents.Extraction
