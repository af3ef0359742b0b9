/-
This file shows that the values that are read are those of the grammar and that any other value is
refused for its first violation.
-/

import ComponentEvents.Proofs.Schema.Reading

namespace ComponentEvents

open Schema

namespace Dispatch

theorem read_unknown {value : Json}
    (unknown : ∀ dispatch : Dispatch, value ≠ .string dispatch.text) :
    read value = .error (.unknownDispatch value) := by
  cases value with
  | string text =>
      cases found : ofText? text with
      | none => simp only [read, found]
      | some dispatch =>
          exact (unknown dispatch (by rw [ofText?_eq_some_iff.mp found])).elim
  | _ => rfl

end Dispatch

namespace Event

variable {entries : List (String × Json)} {argument : Json} {fields : List (Field Json Json)}

theorem HasArgument.readArgument (given : HasArgument entries argument) :
    Event.readArgument entries = .ok argument := by
  obtain ⟨holder, given, tagged, present⟩ := given
  simp [Event.readArgument, Json.required, given, tagged, present, bind, Except.bind]

theorem read_refusedArgument {error : ReadError} (failed : readArgument entries = .error error) :
    read (.object entries) = .error error := by
  simp only [read, failed]
  rfl

/-- After the payload come the name and the dispatch. -/
theorem read_fields (given : readArgument entries = .ok argument)
    (found : Shape.read argument = .ok (.object fields)) :
    read (.object entries) =
      (Json.required nameKey entries >>= fun name =>
        Json.required dispatchKey entries >>= Dispatch.read >>= fun dispatch =>
          .ok ⟨name, Shape.readFlag entries, dispatch, readLegacyName entries, fields⟩) := by
  simp only [read, given, found, bind, Except.bind]
  rfl

theorem HasFields.read (payload : HasFields entries) : ∃ fields, Event.read (.object entries) =
      (Json.required nameKey entries >>= fun name =>
        Json.required dispatchKey entries >>= Dispatch.read >>= fun dispatch =>
          .ok ⟨name, Shape.readFlag entries, dispatch, readLegacyName entries, fields⟩) := by
  obtain ⟨inner, given, readable, tagged⟩ := payload
  obtain ⟨shape, found⟩ := readable.read
  have same : shape.tag = .object := by
    have texts := (Shape.tag_of_read found).symm.trans tagged
    exact ShapeTag.text_injective (by simpa using texts)
  cases shape with
  | object fields => exact ⟨fields, read_fields given.readArgument found⟩
  | _ => cases same

theorem Readable.read : ∀ {value}, Readable value → ∃ event, Event.read value = .ok event
  | _, .mk dispatch payload named dispatched => by
      obtain ⟨fields, reads⟩ := payload.read
      simp only [reads, Json.required, named, dispatched, bind, Except.bind, Dispatch.read_text]
      exact ⟨_, rfl⟩

theorem Violates.read : ∀ {value kind error}, Violates value kind error →
    Event.read value = .error error ∧ error.errorClass = kind
  | value, _, _, .notAnObject other => by
      cases value with
      | object entries => exact (other entries rfl).elim
      | _ => exact ⟨rfl, rfl⟩
  | _, _, _, .annotationMissing missing => by
      refine ⟨read_refusedArgument ?_, rfl⟩
      simp only [readArgument, Json.required, missing]
      rfl
  | _, _, _, @Violates.annotationNotAnObject _ holder given other => by
      refine ⟨read_refusedArgument ?_, rfl⟩
      simp only [readArgument, Json.required, given]
      cases holder with
      | object inner => exact (other inner rfl).elim
      | _ => rfl
  | _, _, _, @Violates.otherTag _ _ tag given found other => by
      refine ⟨read_refusedArgument ?_, rfl⟩
      simp only [readArgument, Json.required, given, found, bind, Except.bind]
      cases tag with
      | string text => exact if_neg fun same => other (congrArg Json.string same)
      | _ => rfl
  | _, _, _, .noArgument given tagged missing => by
      refine ⟨read_refusedArgument ?_, rfl⟩
      simp [readArgument, Json.required, given, tagged, missing, bind, Except.bind]
  | _, _, _, .argument given inner => by
      obtain ⟨failed, kind⟩ := inner.read
      refine ⟨?_, kind⟩
      simp only [Event.read, given.readArgument, failed, bind, Except.bind]
  | _, _, _, .argumentWithoutFields given readable other => by
      obtain ⟨shape, found⟩ := readable.read
      refine ⟨?_, rfl⟩
      simp only [Event.read, given.readArgument, found, bind, Except.bind]
      cases shape with
      | object fields => exact (other (Shape.tag_of_read found)).elim
      | _ => rfl
  | _, _, _, .unnamed payload missing => by
      obtain ⟨fields, reads⟩ := payload.read
      refine ⟨?_, rfl⟩
      simp only [reads, Json.required, missing]
      rfl
  | _, _, _, .noDispatch payload named missing => by
      obtain ⟨fields, reads⟩ := payload.read
      refine ⟨?_, rfl⟩
      simp only [reads, Json.required, named, missing]
      rfl
  | _, _, _, .unknownDispatch payload named given unknown => by
      obtain ⟨fields, reads⟩ := payload.read
      refine ⟨?_, rfl⟩
      simp only [reads, Json.required, named, given, bind, Except.bind,
        Dispatch.read_unknown unknown]

/-- An event without an argument violates the grammar. -/
theorem hasArgument_or_violates (entries : List (String × Json)) :
    (∃ argument, HasArgument entries argument) ∨
      ∃ kind error, Violates (.object entries) kind error := by
  cases given : Json.lookup? annotationKey entries with
  | none => exact .inr ⟨_, _, .annotationMissing given⟩
  | some holder =>
      cases holder with
      | object inner =>
          cases found : Json.lookup? typeKey inner with
          | none =>
              have missing : (Json.lookup? typeKey inner).getD .null = .null := by rw [found]; rfl
              exact .inr ⟨_, _, .otherTag given missing nofun⟩
          | some tag =>
              by_cases tagged : tag = .string eventTag
              · subst tagged
                cases present : Json.lookup? argumentKey inner with
                | none => exact .inr ⟨_, _, .noArgument given found present⟩
                | some argument => exact .inl ⟨argument, inner, given, found, present⟩
              · have other : (Json.lookup? typeKey inner).getD .null = tag := by rw [found]; rfl
                exact .inr ⟨_, _, .otherTag given other tagged⟩
      | _ => exact .inr ⟨_, _, .annotationNotAnObject given (by simp)⟩

/-- An event without fields violates the grammar. -/
theorem hasFields_or_violates (entries : List (String × Json)) :
    HasFields entries ∨ ∃ kind error, Violates (.object entries) kind error := by
  obtain ⟨argument, given⟩ | violates := hasArgument_or_violates entries
  · obtain readable | ⟨kind, error, violates⟩ := Shape.readable_or_violates argument
    · obtain ⟨inner, rfl⟩ := readable.exists_entries
      by_cases tagged : Json.lookup? typeKey inner = some (.string ShapeTag.object.text)
      · exact .inl ⟨inner, given, readable, tagged⟩
      · exact .inr ⟨_, _, .argumentWithoutFields given readable tagged⟩
    · exact .inr ⟨kind, error, .argument given violates⟩
  · exact .inr violates

theorem readable_or_violates (value : Json) :
    Readable value ∨ ∃ kind error, Violates value kind error := by
  cases value with
  | object entries =>
      obtain payload | violates := hasFields_or_violates entries
      · cases named : Json.lookup? nameKey entries with
        | none => exact .inr ⟨_, _, .unnamed payload named⟩
        | some name =>
            cases given : Json.lookup? dispatchKey entries with
            | none => exact .inr ⟨_, _, .noDispatch payload named given⟩
            | some value =>
                by_cases known : ∃ dispatch : Dispatch, value = .string dispatch.text
                · obtain ⟨dispatch, rfl⟩ := known
                  exact .inl (.mk dispatch payload named given)
                · exact .inr ⟨_, _, .unknownDispatch payload named given (not_exists.mp known)⟩
      · exact .inr violates
  | _ => exact .inr ⟨_, _, .notAnObject (by simp)⟩

theorem settled_read (value : Json) : Settled (read value) (Readable value) (Violates value) :=
  ⟨Readable.read, Violates.read, readable_or_violates value⟩

/-- The shapes and the events that are read are those of the grammar, and any other value is refused
for its first violation. -/
theorem read_iff_grammar :
    (∀ value, (∃ shape, Shape.read value = .ok shape) ↔ Shape.Readable value) ∧
    (∀ value kind error, Shape.read value = .error error ∧ error.errorClass = kind ↔
      Shape.Violates value kind error) ∧
    (∀ value, (∃ event, read value = .ok event) ↔ Readable value) ∧
    ∀ value kind error, read value = .error error ∧ error.errorClass = kind ↔
      Violates value kind error := by
  refine ⟨?_, ?_, ?_, ?_⟩
  · intro value
    exact (Shape.settled_read value).exists_ok_iff
  · intro value kind error
    exact (Shape.settled_read value).eq_error_iff
  · intro value
    exact (settled_read value).exists_ok_iff
  · intro value kind error
    exact (settled_read value).eq_error_iff

end Event
end ComponentEvents
