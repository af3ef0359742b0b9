/-
This file shows that an extraction accepts the same members whether cycles are detected or not.
-/

import ComponentEvents.Proofs.Extraction.Batch
import ComponentEvents.Proofs.Extraction.Discard
import ComponentEvents.Proofs.Walk.Detection

namespace ComponentEvents

theorem Config.warnOnDiscard_withDetection (config : Config) (detects detects' : Bool) :
    (config.withDetection detects).warnOnDiscard = (config.withDetection detects').warnOnDiscard :=
  rfl

/-- The second type stands for the first one after parentheses and unions are looked through. -/
inductive TypeExpr.Offers : TypeExpr → TypeExpr → Prop
  | here (type : TypeExpr) : Offers type type
  | parenthesized {inner other : TypeExpr} (offers : Offers inner other) :
      Offers (.parenthesized inner) other
  | arm {arms : List TypeExpr} {arm other : TypeExpr} (member : arm ∈ arms)
      (offers : Offers arm other) : Offers (.union arms) other

namespace Handler

variable {config : Config} {handler : Handler}

mutual

/-- A handler is one of the types that stand for the type of the property. -/
theorem offers_of_detect {optional : Bool} :
    ∀ {type}, (detect config optional type).value = some handler →
      type.Offers handler.reference
  | .parenthesized inner, found => by
      rw [detect] at found
      exact .parenthesized (offers_of_detect found)
  | .union arms, found => by
      rw [detect, Logged.value_bind] at found
      obtain ⟨arm, member, offers⟩ := offers_of_detectFirst found
      exact .arm member offers
  | .reference name arguments, found => by
      rw [detect, Logged.value_pure, Option.map_eq_some_iff] at found
      obtain ⟨dispatch, wrapped, rfl⟩ := found
      rw [Dispatch.ofWrapperName?_eq_some_iff] at wrapped
      subst wrapped
      exact .here _
  | .keyword _, found | .literal _, found | .intersection _, found | .object _, found
  | .interfaceDecl _ _ _, found | .aliasDecl _ _, found => by
      simp [detect] at found

theorem offers_of_detectFirst {optional : Bool} :
    ∀ {arms}, (detectFirst config optional arms).value = some handler →
      ∃ arm ∈ arms, arm.Offers handler.reference
  | [], found => by
      simp [detectFirst] at found
  | arm :: arms, found => by
      rw [detectFirst] at found
      split at found
      · obtain ⟨other, member, offers⟩ := offers_of_detectFirst found
        exact ⟨other, List.mem_cons_of_mem _ member, offers⟩
      · exact ⟨arm, List.mem_cons_self, offers_of_detect found⟩

end

end Handler

/-- No type that a property stands for leads to an inline interface. -/
def Declarations.CoversMembers (declarations : Declarations) (members : List Member) : Prop :=
  ∀ key type optional, .property key type optional ∈ members →
    ∀ node, type.Offers node → declarations.Covers node

namespace Extraction

variable {α β : Type}

namespace Lockstep

theorem refl (extraction : Extraction α) : Lockstep extraction extraction :=
  Or.inl rfl

/-- The second parts need to keep in step only for the value of the first part. -/
theorem bind {first first' : Extraction α} {next next' : α → Extraction β}
    (step : Lockstep first first')
    (goesOn : ∀ value, first'.run.value = .ok value → Lockstep (next value) (next' value)) :
    Lockstep (first >>= next) (first' >>= next') := by
  obtain same | parted := step
  · cases outcome : first'.run.value with
    | error error =>
        refine Or.inl ?_
        rw [run_bind_error outcome, run_bind_error (same ▸ outcome), same]
    | ok value =>
        have outcome' : first.run.value = .ok value := same ▸ outcome
        unfold Lockstep
        rw [run_bind_ok outcome, run_bind_ok outcome', same]
        obtain same | parted := goesOn value outcome
        · rw [same]
          exact Or.inl rfl
        · exact Or.inr parted
  · obtain ⟨⟨error, chain, failed, loop⟩, error', limit, chain', failed', loop'⟩ := parted
    refine Or.inr ?_
    rw [run_bind_error failed, run_bind_error failed']
    exact ⟨⟨error, chain, rfl, loop⟩, error', limit, chain', rfl, loop'⟩

theorem inEvent {extraction extraction' : Extraction α} (event : String)
    (step : Lockstep extraction extraction') :
    Lockstep (inEvent event extraction) (inEvent event extraction') := by
  obtain same | parted := step
  · refine Or.inl ?_
    have same : extraction = extraction' := same
    rw [same]
  · obtain ⟨⟨error, chain, failed, loop⟩, error', limit, chain', failed', loop'⟩ := parted
    refine Or.inr ?_
    rw [value_inEvent, value_inEvent, failed, failed']
    refine ⟨⟨_, chain, rfl, ?_⟩, _, limit, chain', rfl, ?_⟩
    · rw [ExtractionError.cause_inEvent, loop]
    · rw [ExtractionError.cause_inEvent, loop']

end Lockstep

variable {config : Config} {declarations : Declarations}

theorem handlerEvent_detection (closed : declarations.Closed) (name : String) {handler : Handler}
    (covered : declarations.Covers handler.reference) :
    Lockstep (handlerEvent (config.withDetection true) declarations name handler)
      (handlerEvent (config.withDetection false) declarations name handler) := by
  unfold handlerEvent
  refine (Payload.resolve_detection closed (.nil covered) (Or.inl rfl)).bind ?_
  rintro ⟨members, dispatch, legacy⟩ -
  cases members with
  | none => exact .refl _
  | some members =>
      cases dispatch with
      | none => exact .refl _
      | some dispatch =>
          have fields := Payload.memberFields_congr (config.warnOnDiscard_withDetection true false)
            members
          simp only [fields]
          exact .refl _

theorem propertyEvent_detection (closed : declarations.Closed) (name : String) {type : TypeExpr}
    (optional : Bool) (covered : ∀ node, type.Offers node → declarations.Covers node) :
    Lockstep (propertyEvent (config.withDetection true) declarations name type optional)
      (propertyEvent (config.withDetection false) declarations name type optional) := by
  unfold propertyEvent
  rw [Handler.detect_congr (config.warnOnDiscard_withDetection true false)]
  refine (Lockstep.refl _).bind ?_
  intro found same
  cases found with
  | none => exact .refl _
  | some handler =>
      rw [run_monadLift] at same
      have offers : type.Offers handler.reference := Handler.offers_of_detect (Except.ok.inj same)
      refine ((handlerEvent_detection closed name (covered _ offers)).inEvent name).bind ?_
      intro event _
      exact .refl _

/-- One member changes nothing but by a loop. -/
theorem memberEvent_detection (closed : declarations.Closed) {member : Member}
    (covered : declarations.CoversMembers [member]) :
    Lockstep (memberEvent (config.withDetection true) declarations member)
      (memberEvent (config.withDetection false) declarations member) := by
  cases member with
  | property key type optional =>
      exact propertyEvent_detection closed key optional (covered key type optional (by simp))
  | _ => exact .refl _

theorem memberEvents_detection (closed : declarations.Closed) {members : List Member}
    (covered : declarations.CoversMembers members) :
    Lockstep (memberEvents (config.withDetection true) declarations members)
      (memberEvents (config.withDetection false) declarations members) := by
  induction members with
  | nil => exact .refl _
  | cons member members inductionHypothesis =>
      rw [memberEvents, memberEvents]
      have coveredRest : declarations.CoversMembers members := by
        intro key type optional found
        exact covered key type optional (List.mem_cons_of_mem _ found)
      have coveredFirst : declarations.CoversMembers [member] := by
        intro key type optional found
        rw [List.mem_singleton] at found
        exact covered key type optional (found ▸ List.mem_cons_self)
      refine (memberEvent_detection closed coveredFirst).bind ?_
      intro first _
      refine (inductionHypothesis coveredRest).bind ?_
      intro rest _
      exact .refl _

/-- The computation is refused by the guard. -/
def Loops (extraction : Extraction α) : Prop :=
  ∃ error, extraction.run.value = .error error ∧ error.IsLoop

/-- Detecting cycles changes nothing but the error of a loop that is a cycle. -/
theorem events_detection (config : Config) (closed : declarations.Closed) {members : List Member}
    (covered : declarations.CoversMembers members) :
    (Loops (events (config.withDetection true) declarations members) ↔
      Loops (events (config.withDetection false) declarations members)) ∧
    (¬Loops (events (config.withDetection true) declarations members) →
      (events (config.withDetection true) declarations members).run =
        (events (config.withDetection false) declarations members).run) ∧
    ∀ error limit chain,
      (events (config.withDetection true) declarations members).run.value = .error error →
        error.cause = .loop (.tooDeep limit) chain →
          (events (config.withDetection false) declarations members).run.value = .error error := by
  have step : Lockstep (events (config.withDetection true) declarations members)
      (events (config.withDetection false) declarations members) := by
    refine (memberEvents_detection closed covered).bind ?_
    intro found _
    exact .refl _
  obtain same | ⟨⟨error, chain, failed, loop⟩, error', limit, chain', failed', loop'⟩ := step
  · unfold Loops
    rw [same]
    exact ⟨Iff.rfl, fun _ => rfl, fun _ _ _ failed _ => failed⟩
  · have loops : Loops (events (config.withDetection true) declarations members) :=
      ⟨error, failed, _, _, loop⟩
    have loops' : Loops (events (config.withDetection false) declarations members) :=
      ⟨error', failed', _, _, loop'⟩
    refine ⟨iff_of_true loops loops', fun noLoop => (noLoop loops).elim, ?_⟩
    intro other limit chain otherFailed tooDeep
    cases failed.symm.trans otherFailed
    cases loop.symm.trans tooDeep

/-- The payload of the event inherits from itself. -/
def selfInherited : List Member := [.property "onEvent" Payload.selfInheritingHandler false]

/-- The failure of the payload is the failure of the event. -/
theorem value_events_selfInherited {error : ExtractionError}
    (failed : (Payload.resolve config Payload.selfInheriting [] none none
      Payload.selfInheritingHandler).run.value = .error error) :
    (events config Payload.selfInheriting selfInherited).run.value =
      .error (error.inEvent "onEvent") := by
  have found : Handler.ofMember config (.property "onEvent" Payload.selfInheritingHandler false) =
      some ("onEvent", ⟨.direct, [.reference "Event" []], false⟩) := rfl
  have reference : Handler.reference ⟨.direct, [.reference "Event" []], false⟩ =
      Payload.selfInheritingHandler := rfl
  rw [selfInherited, value_events_handler found, value_handlerEvent, reference, failed]
  rfl

/-- The event is refused with either choice, and for the same reason where the limit is reached
before the cycle is. -/
theorem events_detection_selfInherited :
    Payload.selfInheriting.Closed ∧ Payload.selfInheriting.CoversMembers selfInherited ∧
    Loops (events ((⟨3, true, true, by decide⟩ : Config).withDetection false)
      Payload.selfInheriting selfInherited) ∧
    (events ((⟨2, true, true, by decide⟩ : Config).withDetection false) Payload.selfInheriting
      selfInherited).run.value =
        .error ⟨.loop (.tooDeep 2) ["Event", "Base", "Payload"], some "onEvent"⟩ := by
  have covered : Payload.selfInheriting.CoversMembers selfInherited := by
    intro key type optional member node offers
    rw [selfInherited, List.mem_singleton] at member
    cases member
    cases offers
    exact Payload.covers_selfInheritingHandler
  refine ⟨Payload.closed_selfInheriting, covered, ?_, ?_⟩
  · have detection := events_detection ⟨3, true, true, by decide⟩ Payload.closed_selfInheriting
      covered
    have cyclic := value_events_selfInherited
      (Payload.resolve_selfInheritingHandler_cyclic
        (Config.withDetection ⟨3, true, true, by decide⟩ true) rfl (by decide))
    exact detection.1.mp ⟨_, cyclic, _, _, rfl⟩
  · have detection := events_detection ⟨2, true, true, by decide⟩ Payload.closed_selfInheriting
      covered
    have tooDeep := value_events_selfInherited
      (Payload.resolve_selfInheritingHandler_tooDeep
        (Config.withDetection ⟨2, true, true, by decide⟩ true) rfl)
    exact detection.2.2 _ _ _ tooDeep rfl

end Extraction
end ComponentEvents
