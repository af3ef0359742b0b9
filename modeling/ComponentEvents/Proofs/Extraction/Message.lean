/-
This file shows when the message of a failure has the event added at its end.
-/

import ComponentEvents.Proofs.Extraction.Failure
import ComponentEvents.TypeExpr.Build
import Mathlib.Data.List.Basic

namespace ComponentEvents

/-- No double quote stands in the text. -/
def QuoteFree (text : String) : Prop := '"' ∉ text.toList

instance (text : String) : Decidable (QuoteFree text) :=
  inferInstanceAs (Decidable ('"' ∉ text.toList))

theorem quoteFree_append_iff {first second : String} :
    QuoteFree (first ++ second) ↔ QuoteFree first ∧ QuoteFree second := by
  simp [QuoteFree]

theorem quoteFree_toString (number : Nat) : QuoteFree (toString number) := by
  intro quoted
  rw [Nat.toString_eq_repr, Nat.toList_repr] at quoted
  exact absurd (Nat.isDigit_of_mem_toDigits (by decide) (by decide) quoted) (by decide)

theorem quoteFree_intercalate {separator : String} {texts : List String}
    (separatorFree : QuoteFree separator) (free : ∀ text ∈ texts, QuoteFree text) :
    QuoteFree (separator.intercalate texts) := by
  induction texts with
  | nil => simp [QuoteFree]
  | cons text texts inductionHypothesis =>
      obtain ⟨first, rest⟩ := List.forall_mem_cons.mp free
      cases texts with
      | nil =>
          rw [String.intercalate_singleton]
          exact first
      | cons second others =>
          rw [String.intercalate_cons_cons, quoteFree_append_iff, quoteFree_append_iff]
          exact ⟨⟨first, separatorFree⟩, inductionHypothesis rest⟩

/-- Lists that go up to the first occurrence of the same element are equal. -/
theorem append_cons_inj_of_first {α : Type} [DecidableEq α] {mark : α}
    {before before' after after' : List α} (first : mark ∉ before) (first' : mark ∉ before')
    (same : before ++ mark :: after = before' ++ mark :: after') :
    before = before' ∧ after = after' := by
  have position := congrArg (List.idxOf mark) same
  rw [List.idxOf_append_of_notMem first, List.idxOf_append_of_notMem first',
    List.idxOf_cons_self, List.idxOf_cons_self] at position
  obtain ⟨beforeSame, rest⟩ := List.append_inj same position
  exact ⟨beforeSame, (List.cons.inj rest).2⟩

namespace ExtractionError

/-- A text without double quotes mentions no event. -/
theorem not_mentions_of_quoteFree {event text : String} (free : QuoteFree text) :
    ¬mentions event text = true := by
  intro mentioned
  obtain ⟨before, after, same⟩ := mentions_iff.mp mentioned
  apply free
  rw [same]
  simp

/-- A text with one pair of double quotes mentions what stands between them and nothing else. -/
theorem mentions_pair_iff {event before name after : String} (beforeFree : QuoteFree before)
    (nameFree : QuoteFree name) (afterFree : QuoteFree after) :
    mentions event (before ++ "\"" ++ name ++ "\"" ++ after) = true ↔ event = name := by
  rw [mentions_iff]
  have parts : (before ++ "\"" ++ name ++ "\"" ++ after).toList =
      before.toList ++ '"' :: (name.toList ++ '"' :: after.toList) := by
    simp
  rw [parts]
  constructor
  · intro mentioned
    obtain ⟨first, last, same⟩ := mentioned
    have same : before.toList ++ '"' :: (name.toList ++ '"' :: after.toList) =
        first ++ '"' :: (event.toList ++ '"' :: last) := by
      simpa using same
    -- Both double quotes are taken, so none is left for the other parts.
    have count := congrArg (List.count '"') same
    simp only [List.count_append, List.count_cons_self, List.count_eq_zero.mpr beforeFree,
      List.count_eq_zero.mpr nameFree, List.count_eq_zero.mpr afterFree] at count
    have firstFree : '"' ∉ first := List.count_eq_zero.mp (by omega)
    have eventFree : '"' ∉ event.toList := List.count_eq_zero.mp (by omega)
    obtain ⟨-, rest⟩ := append_cons_inj_of_first beforeFree firstFree same
    obtain ⟨sameName, -⟩ := append_cons_inj_of_first nameFree eventFree rest
    exact String.toList_inj.mp sameName.symm
  · rintro rfl
    exact ⟨before.toList, after.toList, by simp⟩

end ExtractionError

/-- The message is made with these texts. -/
def Obstacle.texts : Obstacle → List String
  | .unnamed kind => [kind]
  | .missingArgument name => [name]
  | .legacyNameNotText reference => [reference]
  | .undeclared name => [name]
  | .notFlattenable kind => [kind]
  | .described text => [text]

def LoopReason.texts : LoopReason → List String
  | .cyclic => []
  | .tooDeep _ => []
  | .described text => [text]

namespace Cause

def texts : Cause → List String
  | .described text => [text]
  | .unsupportedProperty property kind => [property, kind]
  | .unresolvedArguments event => [event]
  | .obstacle problem => problem.texts
  | .loop reason chain => reason.texts ++ chain

/-- No double quote comes into the message with its texts. -/
def Plain (cause : Cause) : Prop := ∀ text ∈ cause.texts, QuoteFree text

/-- The message puts this text into double quotes. -/
def quoted? : Cause → Option String
  | .unsupportedProperty property _ => some property
  | .unresolvedArguments event => some event
  | .obstacle (.undeclared name) => some name
  | _ => none

variable {cause : Cause} {event name : String}

/-- The text in double quotes stands between two others. -/
theorem message_of_quoted (quoted : cause.quoted? = some name) :
    ∃ before after, cause.message = before ++ "\"" ++ name ++ "\"" ++ after ∧
      (cause.Plain → QuoteFree before ∧ QuoteFree name ∧ QuoteFree after) := by
  cases cause with
  | unsupportedProperty property kind =>
      rw [quoted?, Option.some.injEq] at quoted
      subst quoted
      refine ⟨"Unable to determine event type for ", ": " ++ kind, ?_, ?_⟩
      · unfold message
        rw [← String.toList_inj]
        simp
      · intro plain
        obtain ⟨nameFree, kindFree⟩ := List.forall_mem_cons.mp plain
        exact ⟨by decide, nameFree,
          quoteFree_append_iff.mpr ⟨by decide, List.forall_mem_singleton.mp kindFree⟩⟩
  | unresolvedArguments event =>
      rw [quoted?, Option.some.injEq] at quoted
      subst quoted
      refine ⟨"Unable to determine event arguments for ", "", ?_, ?_⟩
      · unfold message
        rw [← String.toList_inj]
        simp
      · intro plain
        exact ⟨by decide, List.forall_mem_singleton.mp plain, by decide⟩
  | obstacle problem =>
      cases problem with
      | undeclared undeclaredName =>
          rw [quoted?, Option.some.injEq] at quoted
          subst quoted
          refine ⟨"Failed to find definition for ", "", ?_, ?_⟩
          · unfold message Obstacle.message
            rw [← String.toList_inj]
            simp
          · intro plain
            exact ⟨by decide, List.forall_mem_singleton.mp plain, by decide⟩
      | _ => cases quoted
  | _ => cases quoted

/-- Without a text in double quotes there are none. -/
theorem quoteFree_message (plain : cause.Plain) (noText : cause.quoted? = none) :
    QuoteFree cause.message := by
  cases cause with
  | described text => exact List.forall_mem_singleton.mp plain
  | unsupportedProperty property kind => cases noText
  | unresolvedArguments event => cases noText
  | obstacle problem =>
      cases problem with
      | undeclared name => cases noText
      | described text => exact List.forall_mem_singleton.mp plain
      | unnamed | missingArgument | legacyNameNotText | notFlattenable =>
          have free := List.forall_mem_singleton.mp plain
          unfold message Obstacle.message
          simp only [quoteFree_append_iff, free, and_true]
          decide
  | loop reason chain =>
      obtain ⟨reasonFree, chainFree⟩ := List.forall_mem_append.mp plain
      have namesFree : QuoteFree (" -> ".intercalate chain) :=
        quoteFree_intercalate (by decide) chainFree
      unfold message
      rw [quoteFree_append_iff, quoteFree_append_iff]
      refine ⟨⟨?_, by decide⟩, namesFree⟩
      cases reason with
      | cyclic => decide
      | tooDeep limit => exact quoteFree_append_iff.mpr ⟨by decide, quoteFree_toString limit⟩
      | described text => exact List.forall_mem_singleton.mp reasonFree

/-- The message mentions whatever it puts into double quotes. -/
theorem mentions_of_quoted (quoted : cause.quoted? = some event) :
    ExtractionError.mentions event cause.message = true := by
  obtain ⟨before, after, shape, -⟩ := message_of_quoted quoted
  rw [ExtractionError.mentions_iff, shape]
  exact ⟨before.toList, after.toList, by simp⟩

/-- A message whose texts bring no double quote mentions nothing else. -/
theorem mentions_iff_quoted (plain : cause.Plain) :
    ExtractionError.mentions event cause.message = true ↔ cause.quoted? = some event := by
  cases quoted : cause.quoted? with
  | none =>
      have unmentioned : ¬ExtractionError.mentions event cause.message = true :=
        ExtractionError.not_mentions_of_quoteFree (quoteFree_message plain quoted)
      exact iff_of_false unmentioned nofun
  | some name =>
      obtain ⟨before, after, shape, free⟩ := message_of_quoted quoted
      obtain ⟨beforeFree, nameFree, afterFree⟩ := free plain
      rw [shape, ExtractionError.mentions_pair_iff beforeFree nameFree afterFree,
        Option.some.injEq, eq_comm]

end Cause

/-- The event is added to the message exactly where the cause does not mention it. -/
theorem ExtractionError.message_of_event {error : ExtractionError} {key : String}
    (known : error.event = some key) :
    (error.message = error.cause.message ++ " (in event \"" ++ key ++ "\")" ↔
        mentions key error.cause.message = false) ∧
      (error.message = error.cause.message ↔ mentions key error.cause.message = true) := by
  have longer : error.cause.message ++ " (in event \"" ++ key ++ "\")" ≠ error.cause.message := by
    intro same
    have lengths := congrArg (fun text => text.toList.length) same
    have longer : 0 < " (in event \"".toList.length := by decide
    simp only [String.toList_append, List.length_append] at lengths
    omega
  rw [message, known]
  cases mentioned : mentions key error.cause.message with
  | true => simp [mentioned, longer.symm]
  | false => simp [mentioned, longer]

namespace Extraction

variable {config : Config} {declarations : Declarations} {key : String} {type : TypeExpr}
  {optional : Bool} {error : ExtractionError}

/-- A failed property is known as the event. Its name is added to the message unless the message of
the cause has it in double quotes. That is so where the cause quotes a text that is the same, and
only there if no double quote comes with the texts of the cause. -/
theorem propertyEvent_message
    (failed : (propertyEvent config declarations key type optional).run.value = .error error) :
    error.event = some key ∧
    (error.message = error.cause.message ++ " (in event \"" ++ key ++ "\")" ↔
      ExtractionError.mentions key error.cause.message = false) ∧
    (error.message = error.cause.message ↔
      ExtractionError.mentions key error.cause.message = true) ∧
    (error.cause.quoted? = some key →
      ExtractionError.mentions key error.cause.message = true) ∧
    (error.cause.Plain →
      (ExtractionError.mentions key error.cause.message = true ↔
        error.cause.quoted? = some key)) := by
  have memberFailed : (memberEvent config declarations (.property key type optional)).run.value =
      .error error := failed
  obtain ⟨_, _, _, handler, same, -, error', failed', rfl⟩ := exists_handler_of_failed memberFailed
  cases same
  have known := (handlerEvent_below failed').event_inEvent
  obtain ⟨added, kept⟩ := ExtractionError.message_of_event known
  exact ⟨known, added, kept, Cause.mentions_of_quoted, Cause.mentions_iff_quoted⟩

/-- A number in a payload fails as the event, whatever the property with the number is called. -/
theorem value_propertyEvent_number (key property : String) :
    (propertyEvent .standard ⟨[]⟩ key
      (.handler .direct (.object [.property property (.keyword .number) false]) none)
      false).run.value =
        .error ⟨.unsupportedProperty property "TSNumberKeyword", some key⟩ := by
  let payload : List Member := [.property property (.keyword .number) false]
  have resolved : (Payload.resolve .standard ⟨[]⟩ [] none none
      (Handler.reference ⟨.direct, [.object payload], false⟩)).run =
        ⟨[], .ok ⟨some payload, some .direct, none⟩⟩ := by
    rw [Handler.reference, Payload.resolve_payload none none rfl rfl, Payload.resolve_object]
  have found : Handler.ofMember .standard
      (.property key (.handler .direct (.object payload) none) false) =
        some (key, ⟨.direct, [.object payload], false⟩) := rfl
  refine (value_memberEvent_some found).trans ?_
  rw [value_handlerEvent, resolved]
  rfl

/-- The event is added where the property of the payload has another name. -/
theorem propertyEvent_message_count :
    let error : ExtractionError := ⟨.unsupportedProperty "count" "TSNumberKeyword", some "onFoo"⟩
    (propertyEvent .standard ⟨[]⟩ "onFoo"
        (.handler .direct (.object [.property "count" (.keyword .number) false]) none)
        false).run.value = .error error ∧
      error.message =
        "Unable to determine event type for \"count\": TSNumberKeyword (in event \"onFoo\")" := by
  intro error
  have failed := value_propertyEvent_number "onFoo" "count"
  refine ⟨failed, ?_⟩
  obtain ⟨-, added, -, -, exactly⟩ := propertyEvent_message failed
  have plain : error.cause.Plain :=
    List.forall_mem_cons.mpr ⟨by decide, List.forall_mem_singleton.mpr (by decide)⟩
  have unmentioned : ExtractionError.mentions "onFoo" error.cause.message = false := by
    rw [← Bool.not_eq_true, exactly plain]
    decide
  exact added.mpr unmentioned

/-- The event is not added where the property of the payload has its name. -/
theorem propertyEvent_message_namesake :
    let error : ExtractionError := ⟨.unsupportedProperty "onLoad" "TSNumberKeyword", some "onLoad"⟩
    (propertyEvent .standard ⟨[]⟩ "onLoad"
        (.handler .direct (.object [.property "onLoad" (.keyword .number) false]) none)
        false).run.value = .error error ∧
      (∀ event, error.cause ≠ .unresolvedArguments event) ∧
      error.message = "Unable to determine event type for \"onLoad\": TSNumberKeyword" ∧
      error.message ≠ error.cause.message ++ " (in event \"onLoad\")" := by
  intro error
  have mentioned : ExtractionError.mentions "onLoad" error.cause.message = true :=
    Cause.mentions_of_quoted rfl
  have known : error.event = some "onLoad" := rfl
  obtain ⟨added, kept⟩ := ExtractionError.message_of_event known
  refine ⟨value_propertyEvent_number "onLoad" "onLoad", nofun, kept.mpr mentioned, ?_⟩
  intro suffixed
  rw [added.mp suffixed] at mentioned
  cases mentioned

end Extraction
end ComponentEvents
