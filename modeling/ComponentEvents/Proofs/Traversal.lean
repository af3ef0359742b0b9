/-
This file tells what becomes of a list that is gone through up to the first failure.
-/

namespace ComponentEvents

/-- An outcome is a value or a failure, and never both. -/
theorem Except.exists_ok_iff_not {ε α : Type} {outcome : Except ε α} :
    (∃ value, outcome = .ok value) ↔ ¬∃ error, outcome = .error error := by
  cases outcome <;> simp

/-- The elements are taken in order, a failed one ends the list, and any other one only adds to what
the rest gives. -/
structure FailFast {ε α β γ : Type} (each : α → Except ε β) (all : List α → Except ε γ) : Prop where
  nil : ∃ value, all [] = .ok value
  failed : ∀ {element error} rest, each element = .error error →
    all (element :: rest) = .error error
  passed : ∀ {element value}, each element = .ok value →
    ∃ add : γ → γ, ∀ rest, all (element :: rest) = (all rest).map add

namespace FailFast

variable {ε α β γ : Type} {each : α → Except ε β} {all : List α → Except ε γ}
  {elements : List α} {error : ε}

/-- An element that does not fail has no part in a failure. -/
theorem cons_eq_error_iff (failFast : FailFast each all) {element : α} {value : β} (rest : List α)
    (passed : each element = .ok value) :
    all (element :: rest) = .error error ↔ all rest = .error error := by
  obtain ⟨add, added⟩ := failFast.passed passed
  rw [added]
  cases all rest <;> simp [Except.map]

/-- Only one element is the first that fails. -/
theorem first_failure_unique {before before' after after' : List α} {element element' : α}
    (same : before ++ element :: after = before' ++ element' :: after')
    (earlier : ∀ other ∈ before, ∃ value, each other = .ok value)
    (failed : ∃ error, each element = .error error)
    (earlier' : ∀ other ∈ before', ∃ value, each other = .ok value)
    (failed' : ∃ error, each element' = .error error) : element = element' := by
  induction before generalizing before' with
  | nil =>
      cases before' with
      | nil =>
          cases same
          rfl
      | cons head before' =>
          cases same
          exact (Except.exists_ok_iff_not.mp (earlier' _ List.mem_cons_self) failed).elim
  | cons head before inductionHypothesis =>
      cases before' with
      | nil =>
          cases same
          exact (Except.exists_ok_iff_not.mp (earlier _ List.mem_cons_self) failed').elim
      | cons head' before' =>
          exact inductionHypothesis (List.cons.inj same).2 (List.forall_mem_cons.mp earlier).2
            (List.forall_mem_cons.mp earlier').2

/-- What stands behind an element that fails has no part in the failure. -/
theorem append_eq_error_iff (failFast : FailFast each all) {before : List α} {element : α}
    (after : List α) (earlier : ∀ other ∈ before, ∃ value, each other = .ok value)
    (failed : ∃ error, each element = .error error) :
    all (before ++ element :: after) = .error error ↔ each element = .error error := by
  induction before with
  | nil =>
      obtain ⟨error', failed⟩ := failed
      rw [List.nil_append, failFast.failed after failed, failed, Except.error.injEq,
        Except.error.injEq]
  | cons head before inductionHypothesis =>
      obtain ⟨⟨value, passed⟩, earlier⟩ := List.forall_mem_cons.mp earlier
      rw [List.cons_append, failFast.cons_eq_error_iff _ passed, inductionHypothesis earlier]

/-- A failure is that of the first element that fails. -/
theorem eq_error_iff (failFast : FailFast each all) :
    all elements = .error error ↔
      ∃ before element after, elements = before ++ element :: after ∧
        (∀ earlier ∈ before, ∃ value, each earlier = .ok value) ∧
        each element = .error error := by
  constructor
  · intro failedAll
    induction elements with
    | nil =>
        obtain ⟨value, empty⟩ := failFast.nil
        cases failedAll.symm.trans empty
    | cons head tail inductionHypothesis =>
        cases first : each head with
        | error error' =>
            cases failedAll.symm.trans (failFast.failed tail first)
            exact ⟨[], head, tail, rfl, by simp, first⟩
        | ok value =>
            rw [failFast.cons_eq_error_iff tail first] at failedAll
            obtain ⟨before, element, after, rfl, earlier, failed⟩ := inductionHypothesis failedAll
            refine ⟨head :: before, element, after, rfl, ?_, failed⟩
            exact List.forall_mem_cons.mpr ⟨⟨value, first⟩, earlier⟩
  · intro given
    obtain ⟨before, element, after, rfl, earlier, failed⟩ := given
    exact (failFast.append_eq_error_iff after earlier ⟨error, failed⟩).mpr failed

/-- A list fails exactly where one of its elements does. -/
theorem exists_error_iff (failFast : FailFast each all) :
    (∃ error, all elements = .error error) ↔
      ∃ element ∈ elements, ∃ error, each element = .error error := by
  induction elements with
  | nil =>
      obtain ⟨value, empty⟩ := failFast.nil
      simp [empty]
  | cons head tail inductionHypothesis =>
      cases first : each head with
      | error error => simp [failFast.failed tail first, first]
      | ok value => simp [failFast.cons_eq_error_iff tail first, inductionHypothesis, first]

/-- A list is gone through to its end exactly where no element fails. -/
theorem exists_ok_iff (failFast : FailFast each all) :
    (∃ value, all elements = .ok value) ↔
      ∀ element ∈ elements, ∃ value, each element = .ok value := by
  simp only [Except.exists_ok_iff_not, failFast.exists_error_iff, not_exists, not_and]

end FailFast
end ComponentEvents
