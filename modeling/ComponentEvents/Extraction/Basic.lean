/-
This file holds computations that note what they do and may fail.
-/

import ComponentEvents.Error
import ComponentEvents.Log

namespace ComponentEvents

/-- The notes made before a failure are kept. -/
abbrev Extraction := ExceptT ExtractionError Logged

namespace Extraction

def fail {α : Type} (cause : Cause) : Extraction α := throw (.ofCause cause)

/-- This computation notes one entry and goes on. -/
def note (entry : LogEntry) : Extraction Unit := monadLift (Logged.tell entry)

/-- A failure inside an event is a failure of the event. -/
def inEvent {α : Type} (event : String) (extraction : Extraction α) : Extraction α :=
  ExceptT.adapt (·.inEvent event) extraction

@[simp] theorem run_pure {α : Type} (value : α) :
    (pure value : Extraction α).run = ⟨[], .ok value⟩ := rfl

@[simp] theorem run_fail {α : Type} (cause : Cause) :
    (fail cause : Extraction α).run = ⟨[], .error (.ofCause cause)⟩ := rfl

@[simp] theorem run_note (entry : LogEntry) : (note entry).run = ⟨[entry], .ok ()⟩ := rfl

@[simp] theorem run_monadLift {α : Type} (logged : Logged α) :
    (monadLift logged : Extraction α).run = ⟨logged.log, .ok logged.value⟩ := by
  apply Logged.ext
  · exact List.append_nil logged.log
  · rfl

/-- A failure ends a computation, and what was noted before it stays. -/
theorem run_bind_error {α β : Type} {first : Extraction α} {next : α → Extraction β}
    {error : ExtractionError} (failed : first.run.value = .error error) :
    (first >>= next).run = ⟨first.run.log, .error error⟩ := by
  apply Logged.ext
  · change first.run.log ++ (ExceptT.bindCont next first.run.value).log = first.run.log
    rw [failed]
    exact List.append_nil first.run.log
  · change (ExceptT.bindCont next first.run.value).value = _
    rw [failed]
    rfl

/-- The notes of both parts follow each other. -/
theorem run_bind_ok {α β : Type} {first : Extraction α} {next : α → Extraction β} {value : α}
    (succeeded : first.run.value = .ok value) :
    (first >>= next).run = ⟨first.run.log ++ (next value).run.log, (next value).run.value⟩ := by
  apply Logged.ext
  · change first.run.log ++ (ExceptT.bindCont next first.run.value).log = _
    rw [succeeded]
    rfl
  · change (ExceptT.bindCont next first.run.value).value = _
    rw [succeeded]
    rfl

@[simp] theorem log_inEvent {α : Type} (event : String) (extraction : Extraction α) :
    (inEvent event extraction).run.log = extraction.run.log :=
  List.append_nil extraction.run.log

@[simp] theorem value_inEvent {α : Type} (event : String) (extraction : Extraction α) :
    (inEvent event extraction).run.value = extraction.run.value.mapError (·.inEvent event) := rfl

theorem value_inEvent_eq_ok_iff {α : Type} {event : String} {extraction : Extraction α}
    {value : α} :
    (inEvent event extraction).run.value = .ok value ↔ extraction.run.value = .ok value := by
  rw [value_inEvent]
  cases extraction.run.value with
  | error error => constructor <;> intro same <;> cases same
  | ok found => exact Iff.rfl

/-- What is made of a value changes neither the notes nor a failure. -/
theorem run_map {α β : Type} (change : α → β) (extraction : Extraction α) :
    (change <$> extraction).run = ⟨extraction.run.log, extraction.run.value.map change⟩ := by
  rw [map_eq_pure_bind]
  cases outcome : extraction.run.value with
  | error error =>
      rw [run_bind_error outcome]
      rfl
  | ok value =>
      rw [run_bind_ok outcome, run_pure, List.append_nil]
      rfl

theorem inEvent_map {α β : Type} (event : String) (change : α → β) (extraction : Extraction α) :
    inEvent event (change <$> extraction) = change <$> inEvent event extraction := by
  have same : (inEvent event (change <$> extraction)).run =
      (change <$> inEvent event extraction).run := by
    apply Logged.ext
    · rw [log_inEvent, run_map, run_map, log_inEvent]
    · rw [value_inEvent, run_map, run_map, value_inEvent]
      cases extraction.run.value <;> rfl
  exact same

end Extraction

end ComponentEvents
