/-
This file shows that a higher limit changes nothing but what a lower one refuses.
-/

import ComponentEvents.Proofs.Extraction.Agreement
import Mathlib.Data.ENat.Basic
import Mathlib.Data.PNat.Basic

namespace ComponentEvents

/-- This is the configuration with another limit. -/
def Config.withLimit (config : Config) (limit : ℕ+) : Config :=
  { config with aliasLimit := limit, positive := limit.pos }

/-- The chain was as long as the limit allows. -/
def ExtractionError.IsTooDeep (error : ExtractionError) : Prop :=
  ∃ limit chain, error.cause = .loop (.tooDeep limit) chain

/-- Walks keep in step where the second one has the higher limit, but for what the lower one
refuses. A cycle is refused with either. -/
theorem InStep.ofLimit (config : Config) (declarations : Declarations) {limit limit' : ℕ+}
    (raised : limit ≤ limit') :
    InStep (config.withLimit limit) (config.withLimit limit') declarations declarations
      (fun _ => True) Eq ExtractionError.IsTooDeep where
  find _ := rfl
  within _ _ := fun _ _ _ => Or.inr trivial
  mention name same := by rw [same]
  enter := by
    rintro chain _ name rfl - admitted
    exact ⟨⟨admitted.1, Nat.lt_of_lt_of_le admitted.2 raised⟩, rfl⟩
  refused := by
    rintro chain _ name rfl - -
    by_cases cyclic : config.detectCycles = true ∧ name ∈ chain
    · refine Or.inr ⟨fun admitted => admitted.1 cyclic, ?_⟩
      simp [Chain.refusal, Config.withLimit, cyclic]
    · refine Or.inl ⟨limit, chain.enter name, ?_⟩
      simp [Chain.refusal, Config.withLimit, cyclic, ExtractionError.ofCause]

section Outcome

variable {Outcome : Type} {refused : Outcome → Prop} {outcome : ℕ+ → Outcome}

/-- Below the threshold the limit refuses an outcome, and from there on it has no effect. -/
structure SettlesAt (refused : Outcome → Prop) (outcome : ℕ+ → Outcome) (threshold : ℕ∞) :
    Prop where
  below : ∀ limit : ℕ+, (limit : ℕ∞) < threshold → refused (outcome limit)
  accepted : ∀ limit : ℕ+, threshold ≤ limit → ¬refused (outcome limit)
  same : ∀ limit limit' : ℕ+, threshold ≤ limit → threshold ≤ limit' →
    outcome limit' = outcome limit

/-- A higher limit has no effect where the lower one does not refuse the outcome. -/
structure Conservative (refused : Outcome → Prop) (outcome : ℕ+ → Outcome) : Prop where
  raised : ∀ {limit limit' : ℕ+}, limit ≤ limit' → ¬refused (outcome limit) →
    outcome limit' = outcome limit
  settles : ∃ threshold, SettlesAt refused outcome threshold

/-- The least limit that does not refuse the outcome is the threshold. -/
theorem Conservative.of_raised
    (raised : ∀ {limit limit' : ℕ+}, limit ≤ limit' →
      refused (outcome limit) ∨ outcome limit' = outcome limit) :
    Conservative refused outcome where
  raised higher accepted := (raised higher).resolve_left accepted
  settles := by
    by_cases found : ∃ limit, ¬refused (outcome limit)
    · obtain ⟨least, accepted, minimal⟩ := WellFounded.has_min wellFounded_lt
        {limit | ¬refused (outcome limit)} found
      have above : ∀ limit : ℕ+, ((least : ℕ) : ℕ∞) ≤ limit → outcome limit = outcome least := by
        intro limit higher
        exact (raised (Nat.cast_le.mp higher)).resolve_left accepted
      refine ⟨((least : ℕ) : ℕ∞), ⟨?_, ?_, ?_⟩⟩
      · intro limit lower
        by_contra accepted'
        exact minimal limit accepted' (Nat.cast_lt.mp lower)
      · intro limit higher
        rw [above limit higher]
        exact accepted
      · intro limit limit' higher higher'
        rw [above limit higher, above limit' higher']
    · push Not at found
      refine ⟨⊤, ⟨fun limit _ => found limit, ?_, ?_⟩⟩
      · intro limit higher
        exact ((ENat.natCast_lt_top limit).not_ge higher).elim
      · intro limit _ higher
        exact ((ENat.natCast_lt_top limit).not_ge higher).elim

end Outcome

namespace Extraction

/-- The run ends because its limit is too low. -/
def RefusedByLimit {α : Type} (run : Logged (Except ExtractionError α)) : Prop :=
  Excused ExtractionError.IsTooDeep run.value

theorem isTooDeep_inEvent (event : String) (error : ExtractionError) (tooDeep : error.IsTooDeep) :
    (error.inEvent event).IsTooDeep := by
  obtain ⟨limit, chain, cause⟩ := tooDeep
  exact ⟨limit, chain, by rw [ExtractionError.cause_inEvent, cause]⟩

variable {config : Config} {declarations : Declarations} {limit limit' : ℕ+}

theorem resolve_raised (raised : limit ≤ limit') (chain : Chain) (dispatch : Option Dispatch)
    (legacy : Option String) (node : TypeExpr) :
    Agrees ExtractionError.IsTooDeep
      (Payload.resolve (config.withLimit limit) declarations chain dispatch legacy node)
      (Payload.resolve (config.withLimit limit') declarations chain dispatch legacy node) :=
  Payload.resolve_inStep (.ofLimit config declarations raised)
    (fun _ _ _ => Or.inr trivial) rfl

theorem memberEvent_raised (raised : limit ≤ limit') (member : Member) :
    Agrees ExtractionError.IsTooDeep
      (memberEvent (config.withLimit limit) declarations member)
      (memberEvent (config.withLimit limit') declarations member) := by
  have warned : (config.withLimit limit).warnOnDiscard = (config.withLimit limit').warnOnDiscard :=
    rfl
  exact memberEvent_agrees warned isTooDeep_inEvent fun _ handler _ =>
    resolve_raised raised [] none none handler.reference

theorem events_raised (raised : limit ≤ limit') (members : List Member) :
    Agrees ExtractionError.IsTooDeep
      (events (config.withLimit limit) declarations members)
      (events (config.withLimit limit') declarations members) := by
  have warned : (config.withLimit limit).warnOnDiscard = (config.withLimit limit').warnOnDiscard :=
    rfl
  exact events_agrees warned isTooDeep_inEvent fun _ _ _ handler _ =>
    resolve_raised raised [] none none handler.reference

/-- A higher limit has no effect on a walk for members, a walk for a payload, an event or all events
where the lower limit does not refuse it. -/
theorem events_limit (config : Config) (declarations : Declarations) :
    (∀ chain node, Conservative (Excused ExtractionError.IsTooDeep) fun limit =>
      Heritage.members (config.withLimit limit) declarations chain node) ∧
    (∀ chain dispatch legacy node, Conservative RefusedByLimit fun limit =>
      (Payload.resolve (config.withLimit limit) declarations chain dispatch legacy node).run) ∧
    (∀ name type optional, Conservative RefusedByLimit fun limit =>
      (propertyEvent (config.withLimit limit) declarations name type optional).run) ∧
    ∀ members, Conservative RefusedByLimit fun limit =>
      (events (config.withLimit limit) declarations members).run := by
  refine ⟨?_, ?_, ?_, ?_⟩
  · intro chain node
    refine .of_raised fun raised => ?_
    exact Heritage.members_inStep (.ofLimit config declarations raised)
      (fun _ _ _ => Or.inr trivial) rfl
  · intro chain dispatch legacy node
    exact .of_raised fun raised => resolve_raised raised chain dispatch legacy node
  · intro name type optional
    exact .of_raised fun raised => memberEvent_raised raised (.property name type optional)
  · intro members
    exact .of_raised fun raised => events_raised raised members

end Extraction
end ComponentEvents
