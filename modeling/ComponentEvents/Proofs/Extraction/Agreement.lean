/-
This file compares extractions whose walks agree.
-/

import ComponentEvents.Proofs.Extraction.Batch
import ComponentEvents.Proofs.Extraction.Discard
import ComponentEvents.Proofs.Walk.Agreement

namespace ComponentEvents

namespace Extraction

variable {α β : Type} {excused : ExtractionError → Prop}

/-- The second computation runs like the first one, unless the first one fails with an excuse. -/
def Agrees (excused : ExtractionError → Prop) (extraction extraction' : Extraction α) : Prop :=
  Excused excused extraction.run.value ∨ extraction'.run = extraction.run

namespace Agrees

theorem refl (extraction : Extraction α) : Agrees excused extraction extraction :=
  Or.inr rfl

/-- The second parts need to agree only for the value of the first part. -/
theorem bind {first first' : Extraction α} {next next' : α → Extraction β}
    (agrees : Agrees excused first first')
    (goesOn : ∀ value, first.run.value = .ok value →
      Agrees excused (next value) (next' value)) :
    Agrees excused (first >>= next) (first' >>= next') := by
  obtain ⟨error, failed, given⟩ | same := agrees
  · refine Or.inl ⟨error, ?_, given⟩
    rw [run_bind_error failed]
  · cases outcome : first.run.value with
    | error error =>
        refine Or.inr ?_
        rw [run_bind_error outcome, run_bind_error (same ▸ outcome), same]
    | ok value =>
        have outcome' : first'.run.value = .ok value := same ▸ outcome
        unfold Agrees
        rw [run_bind_ok outcome, run_bind_ok outcome', same]
        exact (goesOn value outcome).imp_right fun same => by rw [same]

/-- An excuse has to hold for the event too. -/
theorem inEvent {extraction extraction' : Extraction α} (event : String)
    (stamped : ∀ error, excused error → excused (error.inEvent event))
    (agrees : Agrees excused extraction extraction') :
    Agrees excused (inEvent event extraction) (inEvent event extraction') := by
  obtain ⟨error, failed, given⟩ | same := agrees
  · refine Or.inl ⟨error.inEvent event, ?_, stamped error given⟩
    rw [value_inEvent, failed]
    rfl
  · refine Or.inr ?_
    have same : extraction' = extraction := same
    rw [same]

end Agrees

variable {config config' : Config} {declarations declarations' : Declarations}

/-- The walks to the payload of the handler agree. -/
def WalksAgree (excused : ExtractionError → Prop) (config config' : Config)
    (declarations declarations' : Declarations) (handler : Handler) : Prop :=
  Agrees excused (Payload.resolve config declarations [] none none handler.reference)
    (Payload.resolve config' declarations' [] none none handler.reference)

theorem handlerEvent_agrees (warned : config.warnOnDiscard = config'.warnOnDiscard)
    (name : String) {handler : Handler}
    (walks : WalksAgree excused config config' declarations declarations' handler) :
    Agrees excused (handlerEvent config declarations name handler)
      (handlerEvent config' declarations' name handler) := by
  unfold handlerEvent
  refine Agrees.bind walks ?_
  rintro ⟨members, dispatch, legacy⟩ -
  cases members with
  | none => exact .refl _
  | some members =>
      cases dispatch with
      | none => exact .refl _
      | some dispatch =>
          simp only [Payload.memberFields_congr warned members]
          exact .refl _

theorem memberEvent_agrees (warned : config.warnOnDiscard = config'.warnOnDiscard)
    (stamped : ∀ event error, excused error → excused (error.inEvent event)) {member : Member}
    (walks : ∀ key handler, Handler.ofMember config member = some (key, handler) →
      WalksAgree excused config config' declarations declarations' handler) :
    Agrees excused (memberEvent config declarations member)
      (memberEvent config' declarations' member) := by
  cases member with
  | property key type optional =>
      rw [memberEvent, memberEvent, propertyEvent, propertyEvent, ← Handler.detect_congr warned]
      refine (Agrees.refl _).bind ?_
      intro found detected
      cases found with
      | none => exact .refl _
      | some handler =>
          rw [run_monadLift] at detected
          have found : Handler.ofMember config (.property key type optional) =
              some (key, handler) := by
            rw [Handler.ofMember, Except.ok.inj detected]
            rfl
          have event := handlerEvent_agrees warned key (walks key handler found)
          exact (event.inEvent key (stamped key)).bind fun event _ => .refl _
  | _ => exact .refl _

theorem memberEvents_agrees (warned : config.warnOnDiscard = config'.warnOnDiscard)
    (stamped : ∀ event error, excused error → excused (error.inEvent event))
    {members : List Member}
    (walks : ∀ member ∈ members, ∀ key handler,
      Handler.ofMember config member = some (key, handler) →
        WalksAgree excused config config' declarations declarations' handler) :
    Agrees excused (memberEvents config declarations members)
      (memberEvents config' declarations' members) := by
  induction members with
  | nil => exact .refl _
  | cons member members inductionHypothesis =>
      obtain ⟨walksFirst, walksRest⟩ := List.forall_mem_cons.mp walks
      rw [memberEvents, memberEvents]
      refine (memberEvent_agrees warned stamped walksFirst).bind fun first _ => ?_
      exact (inductionHypothesis walksRest).bind fun rest _ => .refl _

/-- Extractions agree where the walks to the payloads of all handlers do. -/
theorem events_agrees (warned : config.warnOnDiscard = config'.warnOnDiscard)
    (stamped : ∀ event error, excused error → excused (error.inEvent event))
    {members : List Member}
    (walks : ∀ member ∈ members, ∀ key handler,
      Handler.ofMember config member = some (key, handler) →
        WalksAgree excused config config' declarations declarations' handler) :
    Agrees excused (events config declarations members)
      (events config' declarations' members) := by
  rw [events, events]
  exact (memberEvents_agrees warned stamped walks).bind fun found _ => .refl _

end Extraction
end ComponentEvents
