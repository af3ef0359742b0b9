/-
This file shows that a schema that was written is read back.
-/

import ComponentEvents.Extraction.Events
import ComponentEvents.Schema.Reader

namespace ComponentEvents

theorem Except.bind_eq_ok_iff {ε α β : Type} {first : Except ε α} {next : α → Except ε β}
    {result : β} :
    first >>= next = .ok result ↔ ∃ value, first = .ok value ∧ next value = .ok result := by
  cases first with
  | error error =>
      constructor
      · intro same
        cases same
      · intro same
        obtain ⟨_, ⟨⟩, _⟩ := same
  | ok value =>
      constructor
      · intro succeeded
        exact ⟨value, rfl, succeeded⟩
      · intro same
        obtain ⟨_, ⟨⟩, succeeded⟩ := same
        exact succeeded

open Schema

namespace Shape

/-- The tag of a shape is the first entry of its object. -/
theorem readTag_cons (tag : ShapeTag) (entries : List (String × Json)) :
    readTag ((typeKey, .string tag.text) :: entries) = .ok tag := by
  simp [readTag, Json.lookup?]

theorem readOptions_toJson (first : Json) (rest : List Json) :
    readOptions [
      (typeKey, .string ShapeTag.stringEnum.text),
      (optionsKey, .array (first :: rest))] = .ok (.stringEnum first rest) := by
  rfl

mutual

/-- A shape that was written is read back. -/
theorem read_toJson : ∀ shape, read (toJson shape) = .ok shape
  | .scalar kind => by
      rw [toJson, read, readTag_cons]
  | .stringEnum first rest => by
      rw [toJson, read, readTag_cons]
      exact readOptions_toJson first rest
  | .object fields => by
      rw [toJson, read, readTag_cons]
      have found : Json.lookup? propertiesKey [
          (typeKey, .string ShapeTag.object.text),
          (propertiesKey, .array (fieldsToJson fields))] =
            some (.array (fieldsToJson fields)) := rfl
      simp only [readFieldsEntry_eq, found]
      rw [readFields, readItems_fieldsToJson fields]
      rfl

/-- A field that was written is read back. -/
theorem readField_fieldToJson : ∀ field, readField (fieldToJson field) = .ok field
  | .mk name optional shape => by
      rw [fieldToJson, readField]
      have found : Json.lookup? annotationKey [
          (nameKey, name), (optionalKey, optional), (annotationKey, toJson shape)] =
            some (toJson shape) := rfl
      simp only [readShapeEntry_eq, found]
      rw [read_toJson shape]
      rfl

/-- Fields that were written are read back in order. -/
theorem readItems_fieldsToJson : ∀ fields, readItems (fieldsToJson fields) = .ok fields
  | [] => by
      rw [fieldsToJson, readItems]
  | field :: fields => by
      rw [fieldsToJson, readItems, readField_fieldToJson field, readItems_fieldsToJson fields]
      rfl

end

end Shape

namespace Event

variable (event : Event Json Json)

/-- The fields of an event stand inside the tag of an event. -/
theorem readArgument_entries :
    readArgument event.entries = .ok (Shape.toJson (.object event.fields)) := by
  obtain ⟨name, optional, dispatch, legacy, fields⟩ := event
  cases legacy <;> rfl

/-- A legacy name that is given and is not null stands in its own entry. -/
theorem readLegacyName_entries (present : event.legacyName ≠ some .null) :
    readLegacyName event.entries = event.legacyName := by
  obtain ⟨name, optional, dispatch, legacy, fields⟩ := event
  cases legacy with
  | none => rfl
  | some legacy =>
      have found : Json.lookup? legacyNameKey
          (Event.mk name optional dispatch (some legacy) fields).entries = some legacy := rfl
      rw [readLegacyName, found]
      cases legacy with
      | null => exact (present rfl).elim
      | _ => rfl

/-- A reader takes null for a name that is left out. -/
theorem readLegacyName_ne_null (entries : List (String × Json)) :
    readLegacyName entries ≠ some .null := by
  intro null
  unfold readLegacyName at null
  split at null
  · cases null
  · next noNull => exact noNull null

/-- An event that was written is read back. -/
theorem read_toJson (present : event.legacyName ≠ some .null) :
    read event.toJson = .ok event := by
  have argument := readArgument_entries event
  have payload := Shape.read_toJson (.object event.fields)
  have name : Json.required nameKey event.entries = .ok event.name := rfl
  have dispatch : Json.required dispatchKey event.entries = .ok (.string event.dispatch.text) := rfl
  have optional : Shape.readFlag event.entries = event.optional := rfl
  have legacy := readLegacyName_entries event present
  simp only [toJson, read, argument, payload, name, dispatch, optional, legacy, bind, Except.bind,
    Dispatch.read_text]
  rfl

/-- The legacy name of an event is what its entry is read as. -/
theorem legacyName_of_read {entries : List (String × Json)} {event : Event Json Json}
    (accepted : read (.object entries) = .ok event) :
    event.legacyName = readLegacyName entries := by
  rw [read, Except.bind_eq_ok_iff] at accepted
  obtain ⟨argument, -, accepted⟩ := accepted
  rw [Except.bind_eq_ok_iff] at accepted
  obtain ⟨shape, -, accepted⟩ := accepted
  cases shape with
  | object fields =>
      simp only [Except.bind_eq_ok_iff] at accepted
      obtain ⟨name, -, dispatch, -, same⟩ := accepted
      cases same
      rfl
  | _ => cases accepted

/-- No event is read with a legacy name of null. -/
theorem legacyName_ne_null {value : Json} {event : Event Json Json}
    (accepted : read value = .ok event) : event.legacyName ≠ some .null := by
  cases value with
  | object entries =>
      rw [legacyName_of_read accepted]
      exact readLegacyName_ne_null entries
  | _ => cases accepted

/-- An extracted event has a text as its legacy name or none. -/
theorem legacyName_ofExtracted (event : Event String Bool) :
    (ofExtracted event).legacyName ≠ some .null := by
  obtain ⟨name, optional, dispatch, legacy, fields⟩ := event
  intro null
  cases legacy with
  | none => cases null
  | some legacy => cases null

/-- What is written is read back: every shape, every field, every event whose legacy name is not
null, every extracted event and every event that was read. A value that is read and written again
stays as it is from then on. -/
theorem read_written :
    (∀ event : Event Json Json, event.legacyName ≠ some .null →
      read event.toJson = .ok event) ∧
    (∀ shape, Shape.read shape.toJson = .ok shape) ∧
    (∀ field : Field Json Json, Field.read field.toJson = .ok field) ∧
    (∀ config declarations members found,
      (Extraction.events config declarations members).run.value = .ok found →
        ∀ event ∈ found, read (ofExtracted event).toJson = .ok (ofExtracted event)) ∧
    ∀ value event, read value = .ok event →
      read event.toJson = .ok event ∧ (read event.toJson).map toJson = .ok event.toJson := by
  refine ⟨fun event => event.read_toJson, Shape.read_toJson, Shape.readField_fieldToJson, ?_, ?_⟩
  · intro config declarations members found _ event _
    exact (ofExtracted event).read_toJson (legacyName_ofExtracted event)
  · intro value event accepted
    have again := event.read_toJson (legacyName_ne_null accepted)
    refine ⟨again, ?_⟩
    rw [again]
    rfl

/-- The flag is missing, the options are a text, the legacy name is null and one entry is not
known. -/
def lenient : Json :=
  .object [
    ("version", .integer 2),
    ("name", .string "onChange"),
    ("bubblingType", .string "bubble"),
    ("paperTopLevelNameDeprecated", .null),
    ("typeAnnotation", .object [
      ("type", .string "EventTypeAnnotation"),
      ("argument", .object [
        ("type", .string "ObjectTypeAnnotation"),
        ("properties", .array [
          .object [
            ("name", .string "kind"),
            ("typeAnnotation", .object [
              ("type", .string "StringEnumTypeAnnotation"),
              ("options", .string "ab")])]])])])]

/-- This event is read from the lenient value. -/
def lenientEvent : Event Json Json where
  name := .string "onChange"
  optional := .bool false
  dispatch := .bubble
  legacyName := none
  fields := [.mk (.string "kind") (.bool false) (.stringEnum (.string "a") [.string "b"])]

/-- A lenient value is not what is written, and a legacy name that counts as false is kept. -/
theorem read_written_lenient :
    read lenient = .ok lenientEvent ∧ read lenientEvent.toJson = .ok lenientEvent ∧
    (some (.bool false) ≠ some Json.null ∧
      read (toJson { lenientEvent with legacyName := some (.bool false) }) =
        .ok { lenientEvent with legacyName := some (.bool false) }) := by
  have accepted : read lenient = .ok lenientEvent := by rfl
  have present : some (Json.bool false) ≠ some Json.null := by
    intro null
    cases null
  have again := read_written.2.2.2.2 lenient lenientEvent accepted
  exact ⟨accepted, again.1, present, read_written.1 _ present⟩

end Event

end ComponentEvents
