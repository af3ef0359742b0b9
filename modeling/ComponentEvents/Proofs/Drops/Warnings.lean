/-
This file shows that warnings tell of every arm that an extraction drops, and do nothing else.
-/

import ComponentEvents.Proofs.Drops.Related
import ComponentEvents.Proofs.Walk.Agreement

namespace ComponentEvents

/-- This is the configuration with the warnings on or off. -/
def Config.withWarnings (config : Config) (warns : Bool) : Config :=
  { config with warnOnDiscard := warns }

/-- This is the run with its warnings left out. -/
def Logged.withoutWarnings {α : Type} (run : Logged α) : Logged α where
  log := run.log.filter (·.level ≠ .warning)
  value := run.value

theorem Logged.withoutWarnings_idem {α : Type} (run : Logged α) :
    run.withoutWarnings.withoutWarnings = run.withoutWarnings := by
  apply Logged.ext
  · simp [withoutWarnings]
  · rfl

namespace Extraction

variable {α β : Type}

/-- What warns of nothing is not changed where warnings are left out. -/
theorem quiet_iff_withoutWarnings {extraction : Extraction α} :
    Quiet extraction ↔ extraction.run.withoutWarnings = extraction.run := by
  have kept : Quiet extraction ↔
      extraction.run.log.filter (·.level ≠ .warning) = extraction.run.log := by
    rw [List.filter_eq_self]
    simp only [Quiet, decide_eq_true_eq]
  rw [kept]
  exact ⟨fun same => Logged.ext same rfl, congrArg Logged.log⟩

theorem withoutWarnings_bind_ok {first : Extraction α} {next : α → Extraction β} {value : α}
    (succeeded : first.run.value = .ok value) :
    (first >>= next).run.withoutWarnings =
      ⟨first.run.withoutWarnings.log ++ (next value).run.withoutWarnings.log,
        (next value).run.value⟩ := by
  rw [run_bind_ok succeeded]
  exact Logged.ext (List.filter_append ..) rfl

/-- The second computation runs like the first one without its warnings. -/
def WarnsLess (α : Type) (extraction extraction' : Extraction α) : Prop :=
  extraction'.run = extraction.run.withoutWarnings

/-- The second computation returns what the first one returns without a warning. -/
def WarnsOrFails (α : Type) (extraction extraction' : Extraction α) : Prop :=
  ∀ value, extraction.run.value = .ok value ∧ Quiet extraction ↔
    extraction'.run.value = .ok value

theorem lifts_warnsLess : Lifts WarnsLess where
  quiet quiet := (quiet_iff_withoutWarnings.mp quiet).symm
  bind := by
    intro α β first first' next next' same each
    have same : first'.run = first.run.withoutWarnings := same
    have sameValue : first'.run.value = first.run.value := by
      rw [same]
      rfl
    cases outcome : first.run.value with
    | error error =>
        unfold WarnsLess
        rw [run_bind_error outcome, run_bind_error (sameValue.trans outcome), same]
        rfl
    | ok value =>
        unfold WarnsLess
        rw [withoutWarnings_bind_ok outcome, run_bind_ok (sameValue.trans outcome), same,
          each value]
        rfl
  inEvent := by
    intro α extraction extraction' event same
    have same : extraction'.run = extraction.run.withoutWarnings := same
    apply Logged.ext
    · rw [log_inEvent, same]
      exact congrArg (List.filter _) (log_inEvent event extraction).symm
    · rw [value_inEvent, same]
      rfl

theorem lifts_warnsOrFails : Lifts WarnsOrFails where
  quiet quiet := fun _ => and_iff_left quiet
  bind := by
    intro α β first first' next next' same each value
    cases outcome : first'.run.value with
    | ok middle =>
        -- Nothing was warned of before, and so the rest decides.
        obtain ⟨outcome', quiet⟩ := (same middle).mpr outcome
        rw [quiet_bind_iff outcome', run_bind_ok outcome', run_bind_ok outcome, ← each middle value]
        exact and_congr_right fun _ => and_iff_right quiet
    | error error =>
        rw [run_bind_error outcome]
        refine iff_of_false ?_ nofun
        rintro ⟨returned, quiet⟩
        cases outcome' : first.run.value with
        | error error' =>
            rw [run_bind_error outcome'] at returned
            cases returned
        | ok middle =>
            have returned' := (same middle).mp ⟨outcome', ((quiet_bind_iff outcome').mp quiet).1⟩
            rw [outcome] at returned'
            cases returned'
  inEvent := by
    intro α extraction extraction' event same value
    rw [quiet_inEvent_iff, value_inEvent_eq_ok_iff, value_inEvent_eq_ok_iff]
    exact same value

end Extraction

namespace DropRule

open Extraction

variable {entry : TypeExpr → Nat → TypeExpr → LogEntry}

theorem noteDropped_warnsLess
    (warning : ∀ union count first, (entry union count first).level = .warning)
    (config : Config) (arms : List TypeExpr) :
    WarnsLess Unit (monadLift (Logged.noteDropped (config.withWarnings true) entry arms))
      (monadLift (Logged.noteDropped (config.withWarnings false) entry arms)) := by
  unfold WarnsLess Logged.noteDropped
  rw [run_monadLift, run_monadLift]
  cases TypeExpr.otherArms arms with
  | nil => rfl
  | cons first rest =>
      cases rest with
      | nil => rfl
      | cons second rest =>
          simp [Config.withWarnings, Logged.withoutWarnings, Logged.tell, warning]

theorem noteDropped_warnsOrFails
    (warning : ∀ union count first, (entry union count first).level = .warning)
    (config : Config) (cause : Cause) (arms : List TypeExpr) :
    WarnsOrFails Unit (monadLift (Logged.noteDropped (config.withWarnings true) entry arms))
      (refuse cause arms) := by
  unfold WarnsOrFails Logged.noteDropped refuse
  cases TypeExpr.otherArms arms with
  | nil => exact lifts_warnsOrFails.quiet (quiet_of_noLog rfl)
  | cons first rest =>
      cases rest with
      | nil => exact lifts_warnsOrFails.quiet (quiet_of_noLog rfl)
      | cons second rest =>
          rintro ⟨⟩
          unfold Quiet
          rw [run_monadLift]
          simp [Config.withWarnings, Logged.tell, warning]

theorem noting_warnsLess (config : Config) :
    Related WarnsLess (noting (config.withWarnings true)) (noting (config.withWarnings false)) where
  handlerArms arms := noteDropped_warnsLess (fun _ _ _ => rfl) config arms
  propertyArms _ arms := noteDropped_warnsLess (fun _ _ _ => rfl) config arms

theorem noting_warnsOrFails (config : Config) (cause : Cause) :
    Related WarnsOrFails (noting (config.withWarnings true)) (refusing cause) where
  handlerArms arms := noteDropped_warnsOrFails (fun _ _ _ => rfl) config cause arms
  propertyArms _ arms := noteDropped_warnsOrFails (fun _ _ _ => rfl) config cause arms

end DropRule

/-- Walks keep in step whether warnings are on or off. -/
theorem InStep.ofWarnings (config : Config) (declarations : Declarations) (warns warns' : Bool) :
    InStep (config.withWarnings warns) (config.withWarnings warns') declarations declarations
      (fun _ => True) Eq fun _ => False where
  find _ := rfl
  within _ _ := fun _ _ _ => Or.inr trivial
  mention name same := by rw [same]
  enter := by
    rintro chain _ name rfl - admitted
    exact ⟨admitted, rfl⟩
  refused := by
    rintro chain _ name rfl - refused
    exact Or.inr ⟨refused, rfl⟩

/-- A walk to a payload does not ask whether warnings are on. -/
theorem Payload.resolve_withWarnings (config : Config) (declarations : Declarations)
    (warns warns' : Bool) (node : TypeExpr) :
    resolve (config.withWarnings warns') declarations [] none none node =
      resolve (config.withWarnings warns) declarations [] none none node := by
  have step := InStep.ofWarnings config declarations warns warns'
  have within : node.Within fun _ => True := fun _ _ _ => Or.inr trivial
  obtain ⟨_, _, excuse⟩ | same := @resolve_inStep _ _ _ _ _ _ _ step [] [] none none node within rfl
  · exact excuse.elim
  · exact same

namespace Extraction

variable (config : Config) (declarations : Declarations) (members : List Member)

/-- An extraction without warnings notes and does all else that one with warnings does. -/
theorem events_withoutWarnings :
    (events (config.withWarnings false) declarations members).run =
      (events (config.withWarnings true) declarations members).run.withoutWarnings := by
  rw [← DropRule.events_noting, ← DropRule.events_noting]
  refine DropRule.events_related lifts_warnsLess (DropRule.noting_warnsLess config) ?_ members
  intro node
  rw [Payload.resolve_withWarnings config declarations true false]
  exact lifts_warnsLess.quiet (Payload.quiet_resolve _ _ _ _ _ _)

/-- An extraction that refuses to drop an arm returns what one with warnings returns without a
warning. -/
theorem events_refusing (cause : Cause) :
    WarnsOrFails _ (events (config.withWarnings true) declarations members)
      ((DropRule.refusing cause).events (config.withWarnings true) declarations members) := by
  rw [← DropRule.events_noting]
  exact DropRule.events_related lifts_warnsOrFails (DropRule.noting_warnsOrFails config cause)
    (fun _ => lifts_warnsOrFails.quiet (Payload.quiet_resolve _ _ _ _ _ _)) members

/-- With warnings on, an extraction returns without a warning exactly what an extraction returns
that refuses to drop an arm. The outcome and the other notes are the same with warnings on and
off, and there are no warnings where they are off. -/
theorem events_warnings :
    (∀ cause found,
      ((events (config.withWarnings true) declarations members).run.value = .ok found ∧
          Quiet (events (config.withWarnings true) declarations members)) ↔
        ((DropRule.refusing cause).events (config.withWarnings true) declarations
          members).run.value = .ok found) ∧
    (∀ warns warns',
      (events (config.withWarnings warns) declarations members).run.withoutWarnings =
        (events (config.withWarnings warns') declarations members).run.withoutWarnings) ∧
    Quiet (events (config.withWarnings false) declarations members) := by
  have quiet : Quiet (events (config.withWarnings false) declarations members) := by
    rw [quiet_iff_withoutWarnings, events_withoutWarnings, Logged.withoutWarnings_idem]
  have silenced : ∀ warns,
      (events (config.withWarnings warns) declarations members).run.withoutWarnings =
        (events (config.withWarnings false) declarations members).run := by
    intro warns
    cases warns with
    | true => exact (events_withoutWarnings config declarations members).symm
    | false => exact quiet_iff_withoutWarnings.mp quiet
  refine ⟨events_refusing config declarations members, fun warns warns' => ?_, quiet⟩
  rw [silenced, silenced]

end Extraction
end ComponentEvents
