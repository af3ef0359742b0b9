/-
This file says when two computations have alike outcomes.
-/

import ComponentEvents.Chain
import ComponentEvents.Extraction.Basic
import ComponentEvents.Proofs.Alike.Types

namespace ComponentEvents

variable {rename : Renaming}

/-- The second obstacle is the first one under other names. The text of a reference that is no
handler may differ. -/
inductive Obstacle.Alike (rename : Renaming) : Obstacle → Obstacle → Prop
  | unnamed (kind : String) : Obstacle.Alike rename (.unnamed kind) (.unnamed kind)
  | missingArgument (name : String) :
      Obstacle.Alike rename (.missingArgument name) (.missingArgument name)
  | legacyNameNotText (reference reference' : String) :
      Obstacle.Alike rename (.legacyNameNotText reference) (.legacyNameNotText reference')
  | undeclared (name : String) :
      Obstacle.Alike rename (.undeclared name) (.undeclared (rename name))
  | notFlattenable (kind : String) :
      Obstacle.Alike rename (.notFlattenable kind) (.notFlattenable kind)

/-- The second cause is the first one under other names. A kind may be the name of a type. -/
inductive Cause.Alike (rename : Renaming) : Cause → Cause → Prop
  | unsupportedProperty (property : String) {kind kind' : String}
      (called : kind' = kind ∨ kind' = rename kind) :
      Cause.Alike rename (.unsupportedProperty property kind) (.unsupportedProperty property kind')
  | unresolvedArguments (event : String) :
      Cause.Alike rename (.unresolvedArguments event) (.unresolvedArguments event)
  | obstacle {problem problem' : Obstacle} (alike : problem.Alike rename problem') :
      Cause.Alike rename (.obstacle problem) (.obstacle problem')
  | loop (reason : LoopReason) (chain : List String) :
      Cause.Alike rename (.loop reason chain) (.loop reason (chain.map rename))

/-- Alike errors are about the same event. -/
structure ExtractionError.Alike (rename : Renaming) (error error' : ExtractionError) : Prop where
  cause : error.cause.Alike rename error'.cause
  event : error'.event = error.event

namespace ExtractionError.Alike

theorem ofCause {cause cause' : Cause} (alike : cause.Alike rename cause') :
    (ExtractionError.ofCause cause).Alike rename (.ofCause cause') := by
  cases alike with
  | unsupportedProperty property called => exact ⟨.unsupportedProperty property called, rfl⟩
  | unresolvedArguments event => exact ⟨.unresolvedArguments event, rfl⟩
  | obstacle alike => exact ⟨.obstacle alike, rfl⟩
  | loop reason chain => exact ⟨.loop reason chain, rfl⟩

theorem inEvent {error error' : ExtractionError} (alike : error.Alike rename error')
    (event : String) : (error.inEvent event).Alike rename (error'.inEvent event) := by
  refine ⟨?_, ?_⟩
  · rw [cause_inEvent, cause_inEvent]
    exact alike.cause
  · rw [event_inEvent, event_inEvent, alike.event]

end ExtractionError.Alike

/-- Both computations have related values, or both fail with alike errors. -/
inductive AlikeOutcomes (rename : Renaming) {α β : Type} (related : α → β → Prop) :
    Except ExtractionError α → Except ExtractionError β → Prop
  | ok {value : α} {value' : β} (holds : related value value') :
      AlikeOutcomes rename related (.ok value) (.ok value')
  | error {error error' : ExtractionError} (alike : error.Alike rename error') :
      AlikeOutcomes rename related (.error error) (.error error')

namespace AlikeOutcomes

variable {α β α' β' : Type} {related : α → β → Prop} {related' : α' → β' → Prop}

theorem blocked {obstacle obstacle' : Obstacle} (alike : obstacle.Alike rename obstacle') :
    AlikeOutcomes rename related (.error (.ofCause (.obstacle obstacle)))
      (.error (.ofCause (.obstacle obstacle'))) :=
  .error (.ofCause (.obstacle alike))

theorem of_ok {outcome : Except ExtractionError α} {outcome' : Except ExtractionError β} {value : α}
    (alike : AlikeOutcomes rename related outcome outcome') (succeeded : outcome = .ok value) :
    ∃ value', outcome' = .ok value' ∧ related value value' := by
  cases alike with
  | ok holds =>
      cases succeeded
      exact ⟨_, rfl, holds⟩
  | error alike => cases succeeded

theorem of_error {outcome : Except ExtractionError α} {outcome' : Except ExtractionError β}
    {error : ExtractionError} (alike : AlikeOutcomes rename related outcome outcome')
    (failed : outcome = .error error) :
    ∃ error', outcome' = .error error' ∧ error.Alike rename error' := by
  cases alike with
  | ok holds => cases failed
  | error alike =>
      cases failed
      exact ⟨_, rfl, alike⟩

/-- Where equal values are related, both computations have the same value or fail alike. -/
theorem same_or_failed {outcome outcome' : Except ExtractionError α}
    (alike : AlikeOutcomes rename Eq outcome outcome') :
    (∃ value, outcome = .ok value ∧ outcome' = .ok value) ∨
    ∃ error error', outcome = .error error ∧ outcome' = .error error' ∧
      error.Alike rename error' := by
  cases alike with
  | @ok value _ same =>
      cases same
      exact Or.inl ⟨value, rfl, rfl⟩
  | @error error error' alike => exact Or.inr ⟨error, error', rfl, rfl, alike⟩

theorem map {outcome : Except ExtractionError α} {outcome' : Except ExtractionError β}
    {change : α → α'} {change' : β → β'} (alike : AlikeOutcomes rename related outcome outcome')
    (carries : ∀ {value value'}, related value value' →
      related' (change value) (change' value')) :
    AlikeOutcomes rename related' (outcome.map change) (outcome'.map change') := by
  cases alike with
  | ok holds => exact .ok (carries holds)
  | error alike => exact .error alike

/-- The second parts need alike outcomes only for related values of the first parts. -/
theorem bind {first : Extraction α} {first' : Extraction β} {next : α → Extraction α'}
    {next' : β → Extraction β'}
    (alike : AlikeOutcomes rename related first.run.value first'.run.value)
    (goesOn : ∀ {value value'}, related value value' →
      AlikeOutcomes rename related' (next value).run.value (next' value').run.value) :
    AlikeOutcomes rename related' (first >>= next).run.value (first' >>= next').run.value := by
  cases outcome : first.run.value with
  | ok value =>
      obtain ⟨value', outcome', holds⟩ := alike.of_ok outcome
      rw [Extraction.run_bind_ok outcome, Extraction.run_bind_ok outcome']
      exact goesOn holds
  | error error =>
      obtain ⟨error', outcome', alike⟩ := alike.of_error outcome
      rw [Extraction.run_bind_error outcome, Extraction.run_bind_error outcome']
      exact .error alike

theorem inEvent {extraction : Extraction α} {extraction' : Extraction β} (event : String)
    (alike : AlikeOutcomes rename related extraction.run.value extraction'.run.value) :
    AlikeOutcomes rename related (Extraction.inEvent event extraction).run.value
      (Extraction.inEvent event extraction').run.value := by
  rw [Extraction.value_inEvent, Extraction.value_inEvent]
  cases outcome : extraction.run.value with
  | ok value =>
      obtain ⟨value', outcome', holds⟩ := alike.of_ok outcome
      rw [outcome']
      exact .ok holds
  | error error =>
      obtain ⟨error', outcome', alike⟩ := alike.of_error outcome
      rw [outcome']
      exact .error (alike.inEvent event)

end AlikeOutcomes

namespace Renaming

variable (rename : Renaming)

theorem mem_map_iff {name : String} {chain : Chain} :
    rename name ∈ chain.map rename ↔ name ∈ chain :=
  List.mem_map_of_injective rename.injective

@[simp] theorem enter_map (chain : Chain) (name : String) :
    Chain.enter (chain.map rename) (rename name) = (chain.enter name).map rename := by
  simp [Chain.enter]

@[simp] theorem mention_map (chain : Chain) (name : String) :
    Chain.mention (chain.map rename) (rename name) = (chain.mention name).map rename := by
  simp only [Chain.mention, apply_eq_empty_iff, mem_map_iff, enter_map]
  split <;> rfl

/-- The guard looks at names only to tell whether they are in the chain. -/
theorem admits_map_iff {config : Config} {chain : Chain} {name : String} :
    config.Admits (chain.map rename) (rename name) ↔ config.Admits chain name := by
  simp only [Config.Admits, mem_map_iff, List.length_map]

theorem refusal_map (config : Config) (chain : Chain) (name : String) :
    (chain.refusal config name).Alike rename
      (Chain.refusal config (chain.map rename) (rename name)) := by
  unfold Chain.refusal
  simp only [mem_map_iff, enter_map]
  exact .ofCause (.loop _ _)

end Renaming
end ComponentEvents
