/-
This file shows which values are read as shapes.
-/

import ComponentEvents.Proofs.Schema.Grammar
import ComponentEvents.Proofs.Traversal

namespace ComponentEvents

open Schema

namespace Json

theorem map_length_items? (value : Json) : value.items?.map List.length = value.partCount? := by
  cases value <;> simp [items?, partCount?, String.length_toList]

/-- An entry is smaller than the object that it stands in. -/
theorem sizeOf_lt_of_lookup? {key : String} {entries : List (String × Json)} {value : Json}
    (found : lookup? key entries = some value) : sizeOf value < sizeOf entries := by
  obtain ⟨before, after, rfl, -⟩ := List.lookup_eq_some_iff.mp found
  have inside : (key, value) ∈ before ++ (key, value) :: after := by simp
  have smaller := List.sizeOf_lt_of_mem inside
  simp only [Prod.mk.sizeOf_spec] at smaller
  omega

variable {value : Json}

theorem items?_eq_none_iff : value.items? = none ↔ value.partCount? = none := by
  rw [← map_length_items?, Option.map_eq_none_iff]

theorem items?_of_partCount?_zero (parts : value.partCount? = some 0) :
    value.items? = some [] := by
  rw [← map_length_items?, Option.map_eq_some_iff] at parts
  obtain ⟨items, found, empty⟩ := parts
  rw [found, List.length_eq_zero_iff.mp empty]

theorem items?_of_partCount?_succ {count : Nat} (parts : value.partCount? = some (count + 1)) :
    ∃ first rest, value.items? = some (first :: rest) := by
  rw [← map_length_items?, Option.map_eq_some_iff] at parts
  obtain ⟨items, found, length⟩ := parts
  obtain ⟨first, rest, rfl⟩ := List.exists_cons_of_length_eq_add_one length
  exact ⟨first, rest, found⟩

end Json

theorem ShapeTag.text_injective : Function.Injective text := by
  intro tag other same
  simpa using congrArg ofText? same

/-- A text names at most one tag. -/
theorem ShapeTag.ofText?_eq_some_iff {text : String} {tag : ShapeTag} :
    ofText? text = some tag ↔ text = tag.text := by
  constructor
  · intro found
    unfold ofText? at found
    split at found
    · cases found
      assumption
    · split at found
      · cases found
        assumption
      · obtain ⟨kind, known, rfl⟩ := Option.map_eq_some_iff.mp found
        have same := List.find?_some known
        exact (of_decide_eq_true same).symm
  · intro same
    subst same
    exact ofText?_text tag

/-- A reading accepts what is acceptable and refuses a violation as what it is, and there is always
one of both. -/
structure Settled {α : Type} (outcome : Except ReadError α) (acceptable : Prop)
    (violated : ReadErrorClass → ReadError → Prop) : Prop where
  accepts : acceptable → ∃ value, outcome = .ok value
  refuses : ∀ {kind error}, violated kind error → outcome = .error error ∧ error.errorClass = kind
  total : acceptable ∨ ∃ kind error, violated kind error

namespace Settled

variable {α : Type} {outcome : Except ReadError α} {acceptable : Prop}
  {violated : ReadErrorClass → ReadError → Prop}

theorem exists_ok_iff (settled : Settled outcome acceptable violated) :
    (∃ value, outcome = .ok value) ↔ acceptable := by
  constructor
  · intro accepted
    obtain ⟨value, accepted⟩ := accepted
    obtain acceptable | ⟨kind, error, violation⟩ := settled.total
    · exact acceptable
    · cases accepted.symm.trans (settled.refuses violation).1
  · exact settled.accepts

theorem eq_error_iff (settled : Settled outcome acceptable violated) {kind : ReadErrorClass}
    {error : ReadError} :
    outcome = .error error ∧ error.errorClass = kind ↔ violated kind error := by
  constructor
  · intro refused
    obtain ⟨failed, rfl⟩ := refused
    obtain acceptable | ⟨kind, error', violation⟩ := settled.total
    · obtain ⟨value, accepted⟩ := settled.accepts acceptable
      cases accepted.symm.trans failed
    · obtain ⟨failed', rfl⟩ := settled.refuses violation
      cases failed.symm.trans failed'
      exact violation
  · exact settled.refuses

end Settled

namespace Shape

section Reading

variable {entries : List (String × Json)}

/-- A tag is read exactly where it stands in the entries. -/
theorem readTag_eq_ok_iff {tag : ShapeTag} :
    readTag entries = .ok tag ↔ Json.lookup? typeKey entries = some (.string tag.text) := by
  unfold readTag
  cases found : Json.lookup? typeKey entries with
  | none => simp
  | some value =>
      cases value with
      | string text =>
          simp only [Option.getD_some, Option.some.injEq, Json.string.injEq,
            ← ShapeTag.ofText?_eq_some_iff]
          cases ShapeTag.ofText? text <;> simp
      | _ => simp

theorem readTag_unknown {tag : Json} (given : (Json.lookup? typeKey entries).getD .null = tag)
    (notArray : ∀ items, tag ≠ .array items) (notObject : ∀ inner, tag ≠ .object inner)
    (unknown : ∀ known : ShapeTag, tag ≠ .string known.text) :
    readTag entries = .error (.unknownTag tag) := by
  rw [readTag, given]
  cases tag with
  | string text =>
      cases found : ShapeTag.ofText? text with
      | none => simp only [found]
      | some known => exact (unknown known (by rw [ShapeTag.ofText?_eq_some_iff.mp found])).elim
  | array items => exact (notArray items rfl).elim
  | object inner => exact (notObject inner rfl).elim
  | _ => rfl

theorem read_scalar {kind : Scalar}
    (tagged : Json.lookup? typeKey entries = some (.string (ShapeTag.scalar kind).text)) :
    read (.object entries) = .ok (.scalar kind) := by
  rw [read, readTag_eq_ok_iff.mpr tagged]

theorem read_stringEnum
    (tagged : Json.lookup? typeKey entries = some (.string ShapeTag.stringEnum.text)) :
    read (.object entries) = readOptions entries := by
  rw [read, readTag_eq_ok_iff.mpr tagged]

theorem read_object
    (tagged : Json.lookup? typeKey entries = some (.string ShapeTag.object.text)) :
    read (.object entries) = (readFieldsEntry entries).map .object := by
  rw [read, readTag_eq_ok_iff.mpr tagged]
  cases readFieldsEntry entries <;> rfl

theorem read_options {options : Json}
    (tagged : Json.lookup? typeKey entries = some (.string ShapeTag.stringEnum.text))
    (given : Json.lookup? optionsKey entries = some options) :
    read (.object entries) =
      match options.items? with
      | some items => ofOptions items
      | none => .error .notAList := by
  rw [read_stringEnum tagged, readOptions, Json.required, given]
  rfl

theorem read_fields {fields : Json}
    (tagged : Json.lookup? typeKey entries = some (.string ShapeTag.object.text))
    (given : Json.lookup? propertiesKey entries = some fields) :
    read (.object entries) = (readFields fields).map .object := by
  rw [read_object tagged, readFieldsEntry_eq, given]

theorem readFields_withoutParts {fields : Json} (parts : fields.partCount? = none) :
    readFields fields = .error .notAList := by
  cases fields with
  | array items => cases parts
  | string text => cases parts
  | object inner => cases parts
  | _ => rfl

/-- A field with a name is what its shape is read as. -/
theorem readField_given {name shape : Json}
    (named : Json.lookup? nameKey entries = some name)
    (given : Json.lookup? annotationKey entries = some shape) :
    readField (.object entries) = (read shape).map (.mk name (readFlag entries)) := by
  simp only [readField, readShapeEntry_eq, Json.required, named, given]
  cases read shape <;> rfl

/-- The first field that is no field ends the reading. -/
theorem failFast_readItems : FailFast readField readItems where
  nil := ⟨[], by rw [readItems]⟩
  failed rest failed := by
    rw [readItems, failed]
    rfl
  passed {_ field} passed := by
    refine ⟨(field :: ·), ?_⟩
    intro rest
    rw [readItems, passed]
    cases readItems rest <;> rfl

end Reading

mutual

/-- What each rule of the grammar allows is read. -/
theorem Readable.read : ∀ {value}, Readable value → ∃ shape, Shape.read value = .ok shape
  | _, .scalar kind tagged => ⟨_, read_scalar tagged⟩
  | _, .stringEnum tagged given parts => by
      rw [read_options tagged given]
      obtain ⟨first, rest, items⟩ := Json.items?_of_partCount?_succ parts
      rw [items]
      exact ⟨_, rfl⟩
  | _, .noFields tagged missing => by
      rw [read_object tagged, readFieldsEntry_eq, missing]
      exact ⟨_, rfl⟩
  | _, .emptyText tagged given => by
      rw [read_fields tagged given, readFields]
      exact ⟨_, rfl⟩
  | _, .emptyObject tagged given => by
      rw [read_fields tagged given, readFields]
      exact ⟨_, rfl⟩
  | _, .fields tagged given each => by
      rw [read_fields tagged given, readFields]
      obtain ⟨fields, all⟩ := failFast_readItems.exists_ok_iff.mpr
        fun item belongs => (each item belongs).read
      rw [all]
      exact ⟨_, rfl⟩

theorem ReadableField.read : ∀ {value}, ReadableField value → ∃ field, readField value = .ok field
  | _, .mk named given inner => by
      obtain ⟨shape, found⟩ := inner.read
      rw [readField_given named given, found]
      exact ⟨_, rfl⟩

end

mutual

/-- What violates a rule is refused with the error of the rule. -/
theorem Violates.read : ∀ {value kind error}, Violates value kind error →
    Shape.read value = .error error ∧ error.errorClass = kind
  | value, _, _, .notAnObject other => by
      cases value with
      | object entries => exact (other entries rfl).elim
      | _ => exact ⟨rfl, rfl⟩
  | _, _, _, .tagIsArray tag => by
      refine ⟨?_, rfl⟩
      rw [Shape.read, readTag, tag]
      rfl
  | _, _, _, .tagIsObject tag => by
      refine ⟨?_, rfl⟩
      rw [Shape.read, readTag, tag]
      rfl
  | _, _, _, .unknownTag given notArray notObject unknown => by
      refine ⟨?_, rfl⟩
      rw [Shape.read, readTag_unknown given notArray notObject unknown]
  | _, _, _, .noOptionsEntry tagged missing => by
      refine ⟨?_, rfl⟩
      rw [read_stringEnum tagged, readOptions, Json.required, missing]
      rfl
  | _, _, _, .optionsWithoutParts tagged given parts => by
      refine ⟨?_, rfl⟩
      rw [read_options tagged given, Json.items?_eq_none_iff.mpr parts]
  | _, _, _, .noOptions tagged given parts => by
      refine ⟨?_, rfl⟩
      rw [read_options tagged given, Json.items?_of_partCount?_zero parts]
      rfl
  | _, _, _, .fieldsWithoutParts tagged given parts => by
      refine ⟨?_, rfl⟩
      rw [read_fields tagged given, readFields_withoutParts parts]
      rfl
  | _, _, _, .fieldsInText tagged given filled => by
      refine ⟨?_, rfl⟩
      rw [read_fields tagged given, readFields, if_neg filled]
      rfl
  | _, _, _, .fieldsInObject tagged given filled => by
      refine ⟨?_, rfl⟩
      rw [read_fields tagged given, readFields,
        if_neg (by simpa using filled)]
      rfl
  | _, _, _, .field tagged given earlier first => by
      obtain ⟨failed, kind⟩ := first.read
      refine ⟨?_, kind⟩
      rw [read_fields tagged given, readFields,
        failFast_readItems.eq_error_iff.mpr
          ⟨_, _, _, rfl, fun other belongs => (earlier other belongs).read, failed⟩]
      rfl

theorem ViolatesField.read : ∀ {value kind error}, ViolatesField value kind error →
    readField value = .error error ∧ error.errorClass = kind
  | value, _, _, .notAnObject other => by
      cases value with
      | object entries => exact (other entries rfl).elim
      | _ => exact ⟨rfl, rfl⟩
  | _, _, _, .unnamed missing => by
      refine ⟨?_, rfl⟩
      rw [readField, Json.required, missing]
      rfl
  | _, _, _, .noShape named missing => by
      refine ⟨?_, rfl⟩
      rw [readField, readShapeEntry_eq, Json.required, named, missing]
      rfl
  | _, _, _, .shape named given inner => by
      obtain ⟨failed, kind⟩ := inner.read
      refine ⟨?_, kind⟩
      rw [readField_given named given, failed]
      rfl

end

/-- A tag that is not read violates the grammar. -/
theorem exists_violates_of_readTag {entries : List (String × Json)} {error : ReadError}
    (failed : readTag entries = .error error) :
    ∃ kind error, Violates (.object entries) kind error := by
  cases found : Json.lookup? typeKey entries with
  | none =>
      have given : (Json.lookup? typeKey entries).getD .null = .null := by rw [found]; rfl
      exact ⟨_, _, .unknownTag given nofun nofun nofun⟩
  | some tag =>
      have given : (Json.lookup? typeKey entries).getD .null = tag := by rw [found]; rfl
      cases tag with
      | array items => exact ⟨_, _, .tagIsArray found⟩
      | object inner => exact ⟨_, _, .tagIsObject found⟩
      | string text =>
          refine ⟨_, _, .unknownTag given nofun nofun ?_⟩
          intro known same
          rw [readTag_eq_ok_iff.mpr (found.trans (congrArg some same))] at failed
          cases failed
      | _ => exact ⟨_, _, .unknownTag given nofun nofun nofun⟩

/-- An enumeration needs an entry with parts. -/
theorem options_or_violates {entries : List (String × Json)}
    (tagged : Json.lookup? typeKey entries = some (.string ShapeTag.stringEnum.text)) :
    Readable (.object entries) ∨ ∃ kind error, Violates (.object entries) kind error := by
  cases given : Json.lookup? optionsKey entries with
  | none => exact .inr ⟨_, _, .noOptionsEntry tagged given⟩
  | some options =>
      cases parts : options.partCount? with
      | none => exact .inr ⟨_, _, .optionsWithoutParts tagged given parts⟩
      | some count =>
          cases count with
          | zero => exact .inr ⟨_, _, .noOptions tagged given parts⟩
          | succ count => exact .inl (.stringEnum tagged given parts)

/-- The first item that is no field violates the grammar. -/
theorem fields_or_violates {entries : List (String × Json)} {items : List Json}
    (tagged : Json.lookup? typeKey entries = some (.string ShapeTag.object.text))
    (given : Json.lookup? propertiesKey entries = some (.array items))
    (each : ∀ item ∈ items, ReadableField item ∨ ∃ kind error, ViolatesField item kind error) :
    Readable (.object entries) ∨ ∃ kind error, Violates (.object entries) kind error := by
  classical
  cases first : items.find? fun item => ¬ReadableField item with
  | none =>
      refine .inl (.fields tagged given ?_)
      simpa using List.find?_eq_none.mp first
  | some item =>
      obtain ⟨failed, before, after, rfl, earlier⟩ := List.find?_eq_some_iff_append.mp first
      have readable : ∀ other ∈ before, ReadableField other := by simpa using earlier
      obtain readableItem | ⟨kind, error, violates⟩ := each item (by simp)
      · exact (of_decide_eq_true failed readableItem).elim
      · exact .inr ⟨kind, error, .field tagged given readable violates⟩

mutual

/-- A value that is not of the grammar violates it. An entry is found by its key, so the recursion
is on the size of the value. -/
theorem readable_or_violates :
    ∀ value, Readable value ∨ ∃ kind error, Violates value kind error
  | .object entries => by
      cases tag : readTag entries with
      | error error => exact .inr (exists_violates_of_readTag tag)
      | ok known =>
          have tagged := readTag_eq_ok_iff.mp tag
          cases known with
          | scalar kind => exact .inl (.scalar kind tagged)
          | stringEnum => exact options_or_violates tagged
          | object =>
              cases given : Json.lookup? propertiesKey entries with
              | none => exact .inl (.noFields tagged given)
              | some fields =>
                  have smaller := Json.sizeOf_lt_of_lookup? given
                  cases fields with
                  | array items =>
                      refine fields_or_violates tagged given ?_
                      intro item belongs
                      have inside := List.sizeOf_lt_of_mem belongs
                      exact readableField_or_violatesField item
                  | string text =>
                      by_cases empty : text = ""
                      · subst empty
                        exact .inl (.emptyText tagged given)
                      · exact .inr ⟨_, _, .fieldsInText tagged given empty⟩
                  | object inner =>
                      by_cases empty : inner = []
                      · subst empty
                        exact .inl (.emptyObject tagged given)
                      · exact .inr ⟨_, _, .fieldsInObject tagged given empty⟩
                  | _ => exact .inr ⟨_, _, .fieldsWithoutParts tagged given rfl⟩
  | .null | .bool _ | .integer _ | .double _ | .string _ | .array _ =>
      .inr ⟨_, _, .notAnObject nofun⟩
termination_by value => sizeOf value
decreasing_by
  simp only [Json.array.sizeOf_spec] at smaller
  simp only [Json.object.sizeOf_spec]
  omega

theorem readableField_or_violatesField :
    ∀ value, ReadableField value ∨ ∃ kind error, ViolatesField value kind error
  | .object entries => by
      cases named : Json.lookup? nameKey entries with
      | none => exact .inr ⟨_, _, .unnamed named⟩
      | some name =>
          cases given : Json.lookup? annotationKey entries with
          | none => exact .inr ⟨_, _, .noShape named given⟩
          | some shape =>
              have smaller := Json.sizeOf_lt_of_lookup? given
              obtain inner | ⟨kind, error, inner⟩ := readable_or_violates shape
              · exact .inl (.mk named given inner)
              · exact .inr ⟨kind, error, .shape named given inner⟩
  | .null | .bool _ | .integer _ | .double _ | .string _ | .array _ =>
      .inr ⟨_, _, .notAnObject nofun⟩
termination_by value => sizeOf value
decreasing_by
  simp only [Json.object.sizeOf_spec]
  omega

end

theorem settled_read (value : Json) :
    Settled (read value) (Readable value) (Violates value) :=
  ⟨Readable.read, Violates.read, readable_or_violates value⟩

theorem Readable.exists_entries {value : Json} (readable : Readable value) :
    ∃ entries, value = .object entries := by
  cases readable <;> exact ⟨_, rfl⟩

/-- A shape is read under its own tag. -/
theorem tag_of_read {entries : List (String × Json)} {shape : Shape Json Json}
    (accepted : read (.object entries) = .ok shape) :
    Json.lookup? typeKey entries = some (.string shape.tag.text) := by
  cases tag : readTag entries with
  | error error =>
      rw [read, tag] at accepted
      cases accepted
  | ok known =>
      have tagged := readTag_eq_ok_iff.mp tag
      cases known with
      | scalar kind =>
          rw [read_scalar tagged] at accepted
          cases accepted
          exact tagged
      | stringEnum =>
          cases given : Json.lookup? optionsKey entries with
          | none =>
              rw [read_stringEnum tagged, readOptions, Json.required, given] at accepted
              cases accepted
          | some options =>
              rw [read_options tagged given] at accepted
              split at accepted
              · next items _ =>
                  cases items <;> cases accepted
                  exact tagged
              · cases accepted
      | object =>
          rw [read_object tagged] at accepted
          cases fields : readFieldsEntry entries with
          | error error =>
              rw [fields] at accepted
              cases accepted
          | ok found =>
              rw [fields] at accepted
              cases accepted
              exact tagged

end Shape
end ComponentEvents
