/-
This file shows what an extraction fails with and for which member.
-/

import ComponentEvents.Proofs.Access.Events
import ComponentEvents.Proofs.Extraction.Batch
import ComponentEvents.Proofs.Payload.Fields
import ComponentEvents.Proofs.Walk.Places

namespace ComponentEvents

variable {config : Config} {declarations : Declarations} {error : ExtractionError}

namespace ExtractionError

/-- An error of a walk lies in a node, or the guard refused a name. No event is known yet. -/
inductive OfWalk : ExtractionError → Prop
  | obstacle (problem : Obstacle) : OfWalk (.ofCause (.obstacle problem))
  | loop (reason : LoopReason) (chain : List String) : OfWalk (.ofCause (.loop reason chain))

/-- A failure below an event comes from a walk or from a field, or the payload is not known. -/
inductive Below (event : String) : ExtractionError → Prop
  | walk {error : ExtractionError} (walked : error.OfWalk) : Below event error
  | field (property kind : String) : Below event (.ofCause (.unsupportedProperty property kind))
  | unresolved : Below event (.ofCause (.unresolvedArguments event))

/-- A failure below an event becomes a failure of this event. -/
theorem Below.event_inEvent {event : String} (below : error.Below event) :
    (error.inEvent event).event = some event := by
  rw [ExtractionError.event_inEvent]
  cases below with
  | walk walked => cases walked <;> rfl
  | field => rfl
  | unresolved => rfl

/-- The message of an error names its event in double quotes. -/
theorem mentions_message {event : String} (known : error.event = some event) :
    mentions event error.message = true := by
  rw [message, known]
  cases mentioned : mentions event error.cause.message with
  | true => simp [mentioned]
  | false =>
      simp only [mentioned, Bool.false_eq_true, if_false]
      rw [mentions_iff]
      refine ⟨(error.cause.message ++ " (in event ").toList, [')'], ?_⟩
      simp

end ExtractionError

/-- A walk for a payload fails at a node or at a name that is refused. -/
theorem Payload.resolve_ofWalk {chain : Chain} {dispatch : Option Dispatch}
    {legacy : Option String} {node : TypeExpr}
    (failed : (resolve config declarations chain dispatch legacy node).run.value = .error error) :
    error.OfWalk := by
  obtain ⟨_, _, _, _, _, _, _, rfl⟩ | ⟨obstacle, rfl⟩ := resolve_refuses failed
  · exact .loop _ _
  · exact .obstacle obstacle

namespace Extraction

/-- An event fails in the walk to its payload, in a field or for want of a payload. -/
theorem handlerEvent_below {key : String} {handler : Handler}
    (failed : (handlerEvent config declarations key handler).run.value = .error error) :
    error.Below key := by
  rw [value_handlerEvent] at failed
  split at failed
  · next error' resolved =>
      cases failed
      exact .walk (Payload.resolve_ofWalk resolved)
  · next found dispatch legacy resolved =>
      have refused := Except.map_eq_error_iff.mp failed
      obtain ⟨property, kind, rfl⟩ :=
        (Payload.produces_memberFields config found).unsupported _ refused
      exact .field property kind
  · cases failed
    exact .unresolved

/-- An extraction takes nothing that is missing. It gives events or fails for one of four causes,
and then it tells the first property that has a handler and fails. -/
theorem events_outcome (config : Config) (declarations : Declarations) (members : List Member) :
    Unchecked.events config declarations members =
        monadLift (events config declarations members) ∧
    ((∃ found, (events config declarations members).run.value = .ok found) ∨
      ∃ error, (events config declarations members).run.value = .error error ∧
        ((∃ property kind, error.cause = .unsupportedProperty property kind) ∨
          (∃ event, error.cause = .unresolvedArguments event) ∨
          (∃ obstacle, error.cause = .obstacle obstacle) ∨
          ∃ reason chain, error.cause = .loop reason chain) ∧
        ∃ before key type optional after,
          members = before ++ .property key type optional :: after ∧
          (∀ earlier ∈ before, ∃ outcome,
            (memberEvent config declarations earlier).run.value = .ok outcome) ∧
          (memberEvent config declarations (.property key type optional)).run.value =
            .error error ∧
          (∃ handler, (Handler.detect config optional type).value = some handler) ∧
          error.event = some key ∧
          ExtractionError.mentions key error.message = true) := by
  refine ⟨Unchecked.events_eq config declarations members, ?_⟩
  cases outcome : (events config declarations members).run.value with
  | ok found => exact Or.inl ⟨found, rfl⟩
  | error error =>
      rw [value_events] at outcome
      obtain ⟨before, member, after, rfl, earlier, failed⟩ :=
        (failFast_memberEvents config declarations).eq_error_iff.mp outcome
      obtain ⟨key, type, optional, handler, rfl, detected, error', failed', rfl⟩ :=
        exists_handler_of_failed failed
      have below := handlerEvent_below failed'
      have known := below.event_inEvent
      refine Or.inr ⟨_, rfl, ?_, before, key, type, optional, after, rfl, earlier, failed,
        ⟨handler, detected⟩, known, ExtractionError.mentions_message known⟩
      rw [ExtractionError.cause_inEvent]
      cases below with
      | walk walked =>
          cases walked with
          | obstacle problem => exact Or.inr (Or.inr (Or.inl ⟨problem, rfl⟩))
          | loop reason chain => exact Or.inr (Or.inr (Or.inr ⟨reason, chain, rfl⟩))
      | field property kind => exact Or.inl ⟨property, kind, rfl⟩
      | unresolved => exact Or.inr (Or.inl ⟨key, rfl⟩)

end Extraction
end ComponentEvents
