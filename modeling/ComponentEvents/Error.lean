/-
This file holds the causes for which an extraction fails and their messages.
-/

namespace ComponentEvents

/-- A payload cannot be walked for one of these causes. -/
inductive Obstacle where
  | unnamed (kind : String)
  | missingArgument (name : String)
  | legacyNameNotText (reference : String)
  | undeclared (name : String)
  | notFlattenable (kind : String)
  | described (text : String)
  deriving DecidableEq, Repr

/-- A chain of names ends because it came back to a name or because it is as long as allowed. -/
inductive LoopReason where
  | cyclic
  | tooDeep (limit : Nat)
  | described (text : String)
  deriving DecidableEq, Repr

/-- The chain of a loop ends with the name that was refused. -/
inductive Cause where
  | described (text : String)
  | unsupportedProperty (property kind : String)
  | unresolvedArguments (event : String)
  | obstacle (problem : Obstacle)
  | loop (reason : LoopReason) (chain : List String)
  deriving DecidableEq, Repr

/-- The event is the one whose extraction failed, where it is known. -/
structure ExtractionError where
  cause : Cause
  event : Option String
  deriving DecidableEq, Repr

def Obstacle.message : Obstacle → String
  | .unnamed kind => "typeAnnotation of event doesn't have a name: " ++ kind
  | .missingArgument name => "'" ++ name ++ "' requires a type argument"
  | .legacyNameNotText reference =>
      "Legacy event name of '" ++ reference ++ "' must be a string literal"
  | .undeclared name => "Failed to find definition for \"" ++ name ++ "\""
  | .notFlattenable kind => "Unable to flatten " ++ kind ++ " into event arguments"
  | .described text => text

def LoopReason.message : LoopReason → String
  | .cyclic => "cyclic type alias"
  | .tooDeep limit => "alias chain exceeds max depth " ++ toString limit
  | .described text => text

def Cause.message : Cause → String
  | .described text => text
  | .unsupportedProperty property kind =>
      "Unable to determine event type for \"" ++ property ++ "\": " ++ kind
  | .unresolvedArguments event => "Unable to determine event arguments for \"" ++ event ++ "\""
  | .obstacle problem => problem.message
  | .loop reason chain => reason.message ++ ": " ++ " -> ".intercalate chain

namespace ExtractionError

/-- An error arises without an event unless its cause is about one. -/
def ofCause (cause : Cause) : ExtractionError :=
  match cause with
  | .unresolvedArguments event => ⟨cause, some event⟩
  | _ => ⟨cause, none⟩

/-- An error that has an event keeps it. -/
def inEvent (event : String) (error : ExtractionError) : ExtractionError :=
  match error.event with
  | none => { error with event := some event }
  | some _ => error

@[simp] theorem cause_inEvent (event : String) (error : ExtractionError) :
    (error.inEvent event).cause = error.cause := by
  unfold inEvent
  split <;> rfl

@[simp] theorem event_inEvent (event : String) (error : ExtractionError) :
    (error.inEvent event).event = some (error.event.getD event) := by
  unfold inEvent
  split <;> simp_all

/-- This function tells whether a word stands somewhere in a text. -/
def occursIn (word : List Char) : List Char → Bool
  | [] => word.isEmpty
  | character :: rest => word.isPrefixOf (character :: rest) || occursIn word rest

theorem occursIn_iff {word text : List Char} :
    occursIn word text = true ↔ ∃ before after, text = before ++ word ++ after := by
  induction text with
  | nil =>
      simp [occursIn]
  | cons character rest inductionHypothesis =>
      rw [occursIn, Bool.or_eq_true, inductionHypothesis, List.isPrefixOf_iff_prefix]
      constructor
      · rintro (⟨after, equal⟩ | ⟨before, after, equal⟩)
        · exact ⟨[], after, by simpa using equal.symm⟩
        · exact ⟨character :: before, after, by simp [equal]⟩
      · rintro ⟨before, after, equal⟩
        cases before with
        | nil => exact Or.inl ⟨after, by simpa using equal.symm⟩
        | cons first before =>
            refine Or.inr ⟨before, after, ?_⟩
            simp only [List.cons_append, List.cons.injEq] at equal
            exact equal.2

/-- The event is mentioned when its name stands somewhere in double quotes. -/
def mentions (event message : String) : Bool :=
  occursIn ('"' :: event.toList ++ ['"']) message.toList

theorem mentions_iff {event message : String} :
    mentions event message = true ↔
      ∃ before after, message.toList = before ++ ('"' :: event.toList ++ ['"']) ++ after :=
  occursIn_iff

/-- A message that does not mention the event has it added at the end. -/
def message (error : ExtractionError) : String :=
  let raw := error.cause.message
  match error.event with
  | none => raw
  | some event =>
      if mentions event raw then raw else raw ++ " (in event \"" ++ event ++ "\")"

end ExtractionError

end ComponentEvents
