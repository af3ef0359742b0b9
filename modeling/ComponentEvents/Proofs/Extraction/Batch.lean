/-
This file takes the extraction of all members apart into that of each member.
-/

import ComponentEvents.Extraction.Events
import ComponentEvents.Proofs.Traversal
import Mathlib.Data.List.Forall2

namespace ComponentEvents

theorem Except.map_eq_ok_iff {ε α β : Type} {outcome : Except ε α} {change : α → β} {value : β} :
    outcome.map change = .ok value ↔ ∃ found, outcome = .ok found ∧ change found = value := by
  cases outcome <;> simp [Except.map]

/-- Only a property whose type is a handler has one; the key stands first. -/
def Handler.ofMember (config : Config) : Member → Option (String × Handler)
  | .property key type optional => (detect config optional type).value.map (key, ·)
  | _ => none

/-- Such a member is looked into for an event, and any other is left out. -/
def Member.declaresEvent (config : Config) (member : Member) : Bool :=
  (Handler.ofMember config member).isSome

namespace Extraction

variable {config : Config} {declarations : Declarations} {member : Member}
  {members : List Member} {error : ExtractionError}

section Member

/-- A member without a handler is left out, whatever else it holds. -/
theorem value_memberEvent_none (absent : Handler.ofMember config member = none) :
    (memberEvent config declarations member).run.value = .ok none := by
  cases member with
  | property key type optional =>
      rw [Handler.ofMember, Option.map_eq_none_iff] at absent
      rw [memberEvent, propertyEvent, run_bind_ok (by rw [run_monadLift, absent])]
      rfl
  | _ => rfl

/-- A member with a handler is an event or fails as that event. -/
theorem value_memberEvent_some {key : String} {handler : Handler}
    (found : Handler.ofMember config member = some (key, handler)) :
    (memberEvent config declarations member).run.value =
      ((handlerEvent config declarations key handler).run.value.mapError (·.inEvent key)).map
        some := by
  cases member with
  | property key type optional =>
      rw [Handler.ofMember, Option.map_eq_some_iff] at found
      obtain ⟨handler, detected, same⟩ := found
      cases same
      rw [memberEvent, propertyEvent, run_bind_ok (by rw [run_monadLift, detected])]
      cases outcome : (handlerEvent config declarations key handler).run.value with
      | error error =>
          rw [run_bind_error (by rw [value_inEvent, outcome]; rfl)]
          rfl
      | ok event =>
          rw [run_bind_ok (by rw [value_inEvent, outcome]; rfl)]
          rfl
  | _ => cases found

/-- The payload is walked to, and its members become fields where both parts of it are known. -/
theorem value_handlerEvent (key : String) (handler : Handler) :
    (handlerEvent config declarations key handler).run.value =
      match (Payload.resolve config declarations [] none none handler.reference).run.value with
      | .error error => .error error
      | .ok ⟨some found, some dispatch, legacy⟩ =>
          (Payload.memberFields config found).run.value.map
            fun fields => ⟨key, handler.optional, dispatch, legacy, fields⟩
      | .ok _ => .error (.ofCause (.unresolvedArguments key)) := by
  rw [handlerEvent]
  cases resolved :
      (Payload.resolve config declarations [] none none handler.reference).run.value with
  | error error => rw [run_bind_error resolved]
  | ok resolution =>
      rw [run_bind_ok resolved]
      obtain ⟨found, dispatch, legacy⟩ := resolution
      cases found with
      | none => rfl
      | some found =>
          cases dispatch with
          | none => rfl
          | some dispatch =>
              cases mapped : (Payload.memberFields config found).run.value with
              | error error =>
                  simp only [run_bind_error mapped, mapped]
                  rfl
              | ok fields =>
                  simp only [run_bind_ok mapped, mapped]
                  rfl

/-- An event needs the members and the dispatch of its payload and the fields of the members. -/
theorem handlerEvent_eq_ok_iff {key : String} {handler : Handler} {event : Event String Bool} :
    (handlerEvent config declarations key handler).run.value = .ok event ↔
      ∃ found dispatch legacy fields,
        (Payload.resolve config declarations [] none none handler.reference).run.value =
          .ok ⟨some found, some dispatch, legacy⟩ ∧
        (Payload.memberFields config found).run.value = .ok fields ∧
        event = ⟨key, handler.optional, dispatch, legacy, fields⟩ := by
  rw [value_handlerEvent]
  constructor
  · intro extracted
    split at extracted
    · cases extracted
    · next found dispatch legacy resolved =>
        obtain ⟨fields, mapped, rfl⟩ := Except.map_eq_ok_iff.mp extracted
        exact ⟨found, dispatch, legacy, fields, resolved, mapped, rfl⟩
    · cases extracted
  · intro given
    obtain ⟨found, dispatch, legacy, fields, resolved, mapped, rfl⟩ := given
    rw [resolved]
    exact Except.map_eq_ok_iff.mpr ⟨fields, mapped, rfl⟩

/-- A member makes an event exactly where it has a handler, and the event has its labels. -/
theorem memberEvent_labels {outcome : Option (Event String Bool)}
    (extracted : (memberEvent config declarations member).run.value = .ok outcome) :
    outcome.map (fun event => (event.name, event.optional)) =
      (Handler.ofMember config member).map fun found => (found.1, found.2.optional) := by
  cases found : Handler.ofMember config member with
  | none =>
      rw [value_memberEvent_none found] at extracted
      cases extracted
      rfl
  | some pair =>
      obtain ⟨key, handler⟩ := pair
      rw [value_memberEvent_some found, Except.map_eq_ok_iff] at extracted
      obtain ⟨event, made, rfl⟩ := extracted
      cases outcome : (handlerEvent config declarations key handler).run.value with
      | error error =>
          rw [outcome] at made
          cases made
      | ok event' =>
          rw [outcome] at made
          cases made
          obtain ⟨_, _, _, _, -, -, rfl⟩ := handlerEvent_eq_ok_iff.mp outcome
          rfl

/-- Only a member with a handler fails. -/
theorem exists_handler_of_failed
    (failed : (memberEvent config declarations member).run.value = .error error) :
    ∃ key type optional handler, member = .property key type optional ∧
      (Handler.detect config optional type).value = some handler ∧
      ∃ error', (handlerEvent config declarations key handler).run.value = .error error' ∧
        error = error'.inEvent key := by
  cases found : Handler.ofMember config member with
  | none =>
      rw [value_memberEvent_none found] at failed
      cases failed
  | some pair =>
      obtain ⟨key, handler⟩ := pair
      rw [value_memberEvent_some found] at failed
      cases member with
      | property key type optional =>
          rw [Handler.ofMember, Option.map_eq_some_iff] at found
          obtain ⟨handler, detected, same⟩ := found
          cases same
          refine ⟨key, type, optional, handler, rfl, detected, ?_⟩
          cases outcome : (handlerEvent config declarations key handler).run.value with
          | error error' =>
              rw [outcome] at failed
              cases failed
              exact ⟨error', rfl, rfl⟩
          | ok event =>
              rw [outcome] at failed
              cases failed
      | _ => cases found

end Member

section Members

/-- The members after a failed one are not looked at. -/
theorem value_memberEvents_failed (members : List Member)
    (failed : (memberEvent config declarations member).run.value = .error error) :
    (memberEvents config declarations (member :: members)).run.value = .error error := by
  rw [memberEvents, run_bind_error failed]

theorem value_memberEvents_cons (members : List Member) {outcome : Option (Event String Bool)}
    (extracted : (memberEvent config declarations member).run.value = .ok outcome) :
    (memberEvents config declarations (member :: members)).run.value =
      (memberEvents config declarations members).run.value.map (outcome.toList ++ ·) := by
  rw [memberEvents, run_bind_ok extracted]
  cases rest : (memberEvents config declarations members).run.value with
  | error error => rw [run_bind_error rest]; rfl
  | ok found => rw [run_bind_ok rest]; rfl

/-- The events are those of the members in their order. -/
theorem memberEvents_eq_ok_iff {found : List (Event String Bool)} :
    (memberEvents config declarations members).run.value = .ok found ↔
      ∃ outcomes, List.Forall₂
          (fun member outcome => (memberEvent config declarations member).run.value = .ok outcome)
          members outcomes ∧
        found = outcomes.flatMap Option.toList := by
  induction members generalizing found with
  | nil =>
      simp only [memberEvents, run_pure, List.forall₂_nil_left_iff, exists_eq_left,
        List.flatMap_nil, Except.ok.injEq, eq_comm]
  | cons member members inductionHypothesis =>
      simp only [List.forall₂_cons_left_iff]
      constructor
      · intro extracted
        cases first : (memberEvent config declarations member).run.value with
        | error error =>
            rw [value_memberEvents_failed members first] at extracted
            cases extracted
        | ok outcome =>
            rw [value_memberEvents_cons members first, Except.map_eq_ok_iff] at extracted
            obtain ⟨rest, extractedRest, rfl⟩ := extracted
            obtain ⟨outcomes, each, rfl⟩ := inductionHypothesis.mp extractedRest
            exact ⟨outcome :: outcomes, ⟨outcome, outcomes, rfl, each, rfl⟩, rfl⟩
      · intro given
        obtain ⟨_, ⟨outcome, outcomes, first, each, rfl⟩, rfl⟩ := given
        have rest := inductionHypothesis.mpr ⟨outcomes, each, rfl⟩
        rw [value_memberEvents_cons members first, rest]
        rfl

theorem failFast_memberEvents (config : Config) (declarations : Declarations) :
    FailFast (fun member => (memberEvent config declarations member).run.value)
      (fun members => (memberEvents config declarations members).run.value) where
  nil := ⟨[], rfl⟩
  failed := value_memberEvents_failed
  passed := by
    intro member outcome extracted
    exact ⟨(outcome.toList ++ ·), fun members => value_memberEvents_cons members extracted⟩

/-- The summary changes nothing. -/
theorem value_events (config : Config) (declarations : Declarations) (members : List Member) :
    (events config declarations members).run.value =
      (memberEvents config declarations members).run.value := by
  rw [events]
  cases outcome : (memberEvents config declarations members).run.value with
  | error error => rw [run_bind_error outcome]
  | ok found => rw [run_bind_ok outcome]; rfl

/-- A member that stands alone gives its event or its failure. -/
theorem value_events_singleton (config : Config) (declarations : Declarations)
    (member : Member) :
    (events config declarations [member]).run.value =
      (memberEvent config declarations member).run.value.map Option.toList := by
  rw [value_events]
  cases outcome : (memberEvent config declarations member).run.value with
  | error error => rw [value_memberEvents_failed [] outcome]; rfl
  | ok found =>
      rw [value_memberEvents_cons [] outcome]
      simp [memberEvents, Except.map]

/-- A member with a handler that stands alone is an event or fails as that event. -/
theorem value_events_handler {key : String} {handler : Handler}
    (found : Handler.ofMember config member = some (key, handler)) :
    (events config declarations [member]).run.value =
      ((handlerEvent config declarations key handler).run.value.mapError (·.inEvent key)).map
        ([·]) := by
  rw [value_events_singleton, value_memberEvent_some found]
  cases (handlerEvent config declarations key handler).run.value <;> rfl

end Members

end Extraction
end ComponentEvents
