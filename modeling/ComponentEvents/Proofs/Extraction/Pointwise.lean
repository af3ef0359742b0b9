/-
This file shows that no member has a part in what becomes of another one.
-/

import ComponentEvents.Proofs.Extraction.Batch

namespace ComponentEvents.Extraction

variable {config : Config} {declarations : Declarations}

/-- A member is extracted in a list exactly where it is extracted alone. -/
theorem events_singleton_ok_iff {member : Member} {part : List (Event String Bool)} :
    (events config declarations [member]).run.value = .ok part ↔
      ∃ outcome, (memberEvent config declarations member).run.value = .ok outcome ∧
        outcome.toList = part := by
  rw [value_events_singleton, Except.map_eq_ok_iff]

theorem exists_events_singleton_iff {member : Member} :
    (∃ part, (events config declarations [member]).run.value = .ok part) ↔
      ∃ outcome, (memberEvent config declarations member).run.value = .ok outcome := by
  constructor
  · intro extracted
    obtain ⟨part, extracted⟩ := extracted
    obtain ⟨outcome, extracted, -⟩ := events_singleton_ok_iff.mp extracted
    exact ⟨outcome, extracted⟩
  · intro extracted
    obtain ⟨outcome, extracted⟩ := extracted
    exact ⟨_, events_singleton_ok_iff.mpr ⟨outcome, extracted, rfl⟩⟩

theorem events_singleton_error_iff {member : Member} {error : ExtractionError} :
    (events config declarations [member]).run.value = .error error ↔
      (memberEvent config declarations member).run.value = .error error := by
  rw [value_events_singleton]
  cases (memberEvent config declarations member).run.value <;> simp [Except.map]

/-- The outcomes of the members are those of the members alone, put into lists. -/
theorem forall₂_events_singleton_iff {members : List Member}
    {parts : List (List (Event String Bool))} :
    List.Forall₂ (fun member part =>
        (events config declarations [member]).run.value = .ok part) members parts ↔
      ∃ outcomes, List.Forall₂ (fun member outcome =>
          (memberEvent config declarations member).run.value = .ok outcome) members outcomes ∧
        outcomes.map Option.toList = parts := by
  induction members generalizing parts with
  | nil =>
      simp only [List.forall₂_nil_left_iff, exists_eq_left, List.map_nil, eq_comm]
  | cons member members inductionHypothesis =>
      simp only [List.forall₂_cons_left_iff]
      constructor
      · intro given
        obtain ⟨part, parts, first, rest, rfl⟩ := given
        obtain ⟨outcome, extracted, rfl⟩ := events_singleton_ok_iff.mp first
        obtain ⟨outcomes, each, rfl⟩ := inductionHypothesis.mp rest
        exact ⟨outcome :: outcomes, ⟨outcome, outcomes, extracted, each, rfl⟩, rfl⟩
      · intro given
        obtain ⟨_, ⟨outcome, outcomes, extracted, each, rfl⟩, rfl⟩ := given
        exact ⟨outcome.toList, outcomes.map Option.toList,
          events_singleton_ok_iff.mpr ⟨outcome, extracted, rfl⟩,
          inductionHypothesis.mpr ⟨outcomes, each, rfl⟩, rfl⟩

/-- The labels of the events are those that the members give. -/
theorem labels_of_outcomes {members : List Member} {outcomes : List (Option (Event String Bool))}
    (each : List.Forall₂ (fun member outcome =>
      (memberEvent config declarations member).run.value = .ok outcome) members outcomes) :
    (outcomes.flatMap Option.toList).map (fun event => (event.name, event.optional)) =
      members.filterMap fun member =>
        (Handler.ofMember config member).map fun found => (found.1, found.2.optional) := by
  induction each with
  | nil => rfl
  | @cons member outcome members outcomes extracted _ inductionHypothesis =>
      have labels := memberEvent_labels extracted
      rw [List.flatMap_cons, List.map_append, inductionHypothesis, List.filterMap_cons, ← labels]
      cases outcome <;> rfl

/-- Members that declare no event may be left out or put in anywhere. -/
theorem value_memberEvents_filter (config : Config) (declarations : Declarations)
    (members : List Member) :
    (memberEvents config declarations members).run.value =
      (memberEvents config declarations (members.filter (·.declaresEvent config))).run.value := by
  induction members with
  | nil => rfl
  | cons member members inductionHypothesis =>
      cases declares : member.declaresEvent config with
      | false =>
          have absent : Handler.ofMember config member = none := by
            simpa [Member.declaresEvent] using declares
          rw [List.filter_cons_of_neg (by simp [declares]), ← inductionHypothesis,
            value_memberEvents_cons members (value_memberEvent_none absent)]
          cases (memberEvents config declarations members).run.value <;> rfl
      | true =>
          rw [List.filter_cons_of_pos declares]
          cases first : (memberEvent config declarations member).run.value with
          | error error =>
              rw [value_memberEvents_failed _ first, value_memberEvents_failed _ first]
          | ok outcome =>
              rw [value_memberEvents_cons _ first, value_memberEvents_cons _ first,
                inductionHypothesis]

/-- The events of a list are those of its members alone, one for each handler and in their order.
The failure of a list is that of the first member that fails alone. Members that declare no event
change neither. -/
theorem events_pointwise (config : Config) (declarations : Declarations) :
    (∀ members, (∃ found, (events config declarations members).run.value = .ok found) ↔
      ∀ member ∈ members, ∃ part, (events config declarations [member]).run.value = .ok part) ∧
    (∀ members found, (events config declarations members).run.value = .ok found →
      (∃ parts, List.Forall₂ (fun member part =>
          (events config declarations [member]).run.value = .ok part) members parts ∧
        found = parts.flatten) ∧
      found.map (fun event => (event.name, event.optional)) =
        members.filterMap fun member =>
          (Handler.ofMember config member).map fun found => (found.1, found.2.optional)) ∧
    (∀ members error, (events config declarations members).run.value = .error error ↔
      ∃ before member after, members = before ++ member :: after ∧
        (∀ earlier ∈ before, ∃ part,
          (events config declarations [earlier]).run.value = .ok part) ∧
        (events config declarations [member]).run.value = .error error) ∧
    ∀ members members',
      members.filter (·.declaresEvent config) = members'.filter (·.declaresEvent config) →
        (events config declarations members).run.value =
          (events config declarations members').run.value := by
  simp only [exists_events_singleton_iff, events_singleton_error_iff]
  refine ⟨?_, ?_, ?_, ?_⟩
  · intro members
    rw [value_events]
    exact (failFast_memberEvents config declarations).exists_ok_iff
  · intro members found extracted
    rw [value_events, memberEvents_eq_ok_iff] at extracted
    obtain ⟨outcomes, each, rfl⟩ := extracted
    refine ⟨⟨outcomes.map Option.toList, ?_, ?_⟩, labels_of_outcomes each⟩
    · exact forall₂_events_singleton_iff.mpr ⟨outcomes, each, rfl⟩
    · exact List.flatMap_def ..
  · intro members error
    rw [value_events]
    exact (failFast_memberEvents config declarations).eq_error_iff
  · intro members members' same
    rw [value_events, value_events, value_memberEvents_filter config declarations members, same,
      ← value_memberEvents_filter]

end ComponentEvents.Extraction
