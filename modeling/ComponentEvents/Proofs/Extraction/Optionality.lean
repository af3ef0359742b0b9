/-
This file shows that the flag of an event is independent of everything else about it.
-/

import ComponentEvents.Extraction.Events
import ComponentEvents.Proofs.Handler.Leaves
import ComponentEvents.Proofs.Walk.Payload

namespace ComponentEvents

open TypeExpr

/-- This is the handler with another flag. -/
def Handler.marked (flag : Bool) (handler : Handler) : Handler := { handler with optional := flag }

/-- This is the event with another flag. -/
def Event.marked {Label Flag : Type} (flag : Flag) (event : Event Label Flag) : Event Label Flag :=
  { event with optional := flag }

namespace Handler

theorem map_marked_map_marked (flag flag' : Bool) (handler : Option Handler) :
    (handler.map (marked flag)).map (marked flag') = handler.map (marked flag') := by
  cases handler <;> rfl

variable (config : Config)

mutual

/-- Nullish arms of the unions on the way set the flag, and the given flag changes nothing else. -/
theorem detect_marked : ∀ optional type, detect config optional type =
    Option.map (marked (optional || type.passedUnions.any hasNullish)) <$> detect config false type
  | optional, .parenthesized inner => by
      rw [detect, detect, passedUnions]
      exact detect_marked optional inner
  | optional, .union arms => by
      rw [detect, detect, passedUnions, List.any_cons, detectFirst_marked (optional || _) arms,
        detectFirst_marked (false || _) arms]
      simp only [map_bind, Functor.map_map, map_marked_map_marked, Bool.or_assoc]
  | optional, .reference name arguments => by
      simp [detect, passedUnions, marked, Function.comp_def]
  | optional, .keyword _ | optional, .literal _ | optional, .intersection _ | optional, .object _
  | optional, .interfaceDecl _ _ _ | optional, .aliasDecl _ _ => by
      simp [detect]

theorem detectFirst_marked : ∀ optional arms, detectFirst config optional arms =
    Option.map (marked (optional || (passedUnionsOfFirst arms).any hasNullish)) <$>
      detectFirst config false arms
  | optional, [] => by
      simp [detectFirst]
  | optional, arm :: arms => by
      rw [detectFirst, detectFirst, passedUnionsOfFirst]
      split
      · exact detectFirst_marked optional arms
      · exact detect_marked optional arm

end

/-- A type beside nullish arms is gone into with the flag set. -/
theorem detect_nullable {type : TypeExpr} {before after : List TypeExpr} {optional : Bool}
    (nullish : ∀ arm ∈ before ++ after, arm.isNullish = true) (given : before ++ after ≠ []) :
    detect config optional (.union (before ++ type :: after)) = detect config true type := by
  have missing : hasNullish (before ++ type :: after) = true := by
    obtain ⟨arm, belongs⟩ := List.exists_mem_of_ne_nil _ given
    have inside : arm ∈ before ++ type :: after := by
      obtain first | last := List.mem_append.mp belongs
      · exact List.mem_append_left _ first
      · exact List.mem_append_right _ (List.mem_cons_of_mem _ last)
    exact List.any_eq_true.mpr ⟨arm, inside, nullish arm belongs⟩
  have others : otherArms (before ++ type :: after) = otherArms [type] := by
    obtain ⟨first, last⟩ := List.forall_mem_append.mp nullish
    rw [← List.singleton_append, otherArms_append, otherArms_append,
      otherArms_eq_nil_iff.mpr first, otherArms_eq_nil_iff.mpr last, List.nil_append,
      List.append_nil]
  rw [detect, detectFirst_eq, missing, others, Logged.noteDropped, others, Bool.or_true]
  cases other : type.isNullish with
  | true =>
      -- A nullish keyword is no handler, in the union or out of it.
      rw [otherArms_cons_nullish [] other]
      cases type with
      | keyword word => simp [otherArms, detect]
      | _ => cases other
  | false =>
      rw [otherArms_cons_other [] other]
      rfl

end Handler

namespace Extraction

variable (config : Config) (declarations : Declarations) (name : String)

theorem handlerEvent_marked (flag : Bool) (handler : Handler) :
    handlerEvent config declarations name (handler.marked flag) =
      Event.marked flag <$> handlerEvent config declarations name handler := by
  rw [handlerEvent, handlerEvent, map_bind]
  congr 1
  funext resolution
  split
  · simp only [map_bind, map_pure]
    rfl
  · rfl

theorem propertyEvent_marked (optional : Bool) (type : TypeExpr) :
    propertyEvent config declarations name type optional =
      Option.map (Event.marked (optional || type.passedUnions.any hasNullish)) <$>
        propertyEvent config declarations name type false := by
  rw [propertyEvent, propertyEvent, Handler.detect_marked, monadLift_map, bind_map_left, map_bind]
  congr 1
  funext found
  cases found with
  | none => rfl
  | some handler =>
      simp only [Option.map_some, handlerEvent_marked, inEvent_map, bind_map_left, map_bind,
        map_pure]

/-- What the search for the handler notes stands before what its payload does. -/
theorem run_propertyEvent_made {optional : Bool} {type : TypeExpr} {handler : Handler}
    {event : Event String Bool} {searched walked : List LogEntry}
    (detected : Handler.detect config optional type = ⟨searched, some handler⟩)
    (made : (handlerEvent config declarations name handler).run = ⟨walked, .ok event⟩) :
    (propertyEvent config declarations name type optional).run =
      ⟨searched ++ walked, .ok (some event)⟩ := by
  have staysMade : (inEvent name (handlerEvent config declarations name handler)).run =
      ⟨walked, .ok event⟩ := by
    apply Logged.ext
    · rw [log_inEvent, made]
    · rw [value_inEvent, made]
      rfl
  have found : (monadLift (Handler.detect config optional type) :
      Extraction (Option Handler)).run.value = .ok (some handler) := by
    rw [run_monadLift, detected]
  rw [propertyEvent, run_bind_ok found, run_monadLift, detected]
  simp only [run_bind_ok (congrArg Logged.value staysMade), staysMade, run_pure, List.append_nil]

theorem propertyEvent_nullable {type : TypeExpr} {before after : List TypeExpr}
    (nullish : ∀ arm ∈ before ++ after, arm.isNullish = true) (given : before ++ after ≠ [])
    (optional : Bool) :
    propertyEvent config declarations name (.union (before ++ type :: after)) optional =
      propertyEvent config declarations name type true := by
  rw [propertyEvent, propertyEvent, Handler.detect_nullable config nullish given]

/-- One bit of a type and the given flag make the flag of the event, and nothing else depends on the
flag. A type beside nullish arms is the type with the flag set. -/
theorem propertyEvent_optional (type : TypeExpr) :
    (∃ forced : Bool, (forced = true ↔ ∃ arms ∈ type.passedUnions, hasNullish arms = true) ∧
      ∀ optional, (propertyEvent config declarations name type optional).run =
        ⟨(propertyEvent config declarations name type false).run.log,
          (propertyEvent config declarations name type false).run.value.map
            (Option.map (Event.marked (optional || forced)))⟩) ∧
    ∀ before after, (∀ arm ∈ before ++ after, arm.isNullish = true) → before ++ after ≠ [] →
      ∀ optional,
        (propertyEvent config declarations name (.union (before ++ type :: after)) optional).run =
          (propertyEvent config declarations name type true).run := by
  refine ⟨⟨type.passedUnions.any hasNullish, List.any_eq_true, ?_⟩, ?_⟩
  · intro optional
    rw [propertyEvent_marked, run_map]
  · intro before after nullish given optional
    rw [propertyEvent_nullable config declarations name nullish given]

/-- Between a null and an undefined a handler in parentheses is an optional event, and the arm that
it drops is noted as it is without them. -/
theorem propertyEvent_optional_nested :
    let handler : TypeExpr := .parenthesized (.handler .bubble (.keyword .null) none)
    let type : TypeExpr := .union [handler, .keyword .string]
    ((∀ arm ∈ [TypeExpr.keyword .null] ++ [.keyword .undefined], arm.isNullish = true) ∧
      [TypeExpr.keyword .null] ++ [.keyword .undefined] ≠ []) ∧
    (propertyEvent .standard ⟨[]⟩ "onLoad" (.union [.keyword .null, type, .keyword .undefined])
      false).run =
        ⟨[.handlerArmsDropped type 2 handler], .ok (some ⟨"onLoad", true, .bubble, none, []⟩)⟩ := by
  intro handler type
  have nullish : ∀ arm ∈ [TypeExpr.keyword .null] ++ [.keyword .undefined],
      arm.isNullish = true := by
    simp [isNullish, Keyword.isNullish]
  have given : [TypeExpr.keyword .null] ++ [.keyword .undefined] ≠ [] := List.cons_ne_nil _ _
  refine ⟨⟨nullish, given⟩, ?_⟩
  have same := (propertyEvent_optional .standard ⟨[]⟩ "onLoad" type).2 _ _ nullish given false
  refine same.trans ?_
  have resolved : (Payload.resolve .standard ⟨[]⟩ [] none none
      (Handler.reference ⟨.bubble, [.keyword .null], true⟩)).run =
        ⟨[], .ok ⟨some [], some .bubble, none⟩⟩ :=
    Payload.resolve_nullish none none rfl rfl
  have made : (handlerEvent .standard ⟨[]⟩ "onLoad" ⟨.bubble, [.keyword .null], true⟩).run =
      ⟨[], .ok ⟨"onLoad", true, .bubble, none, []⟩⟩ := by
    rw [handlerEvent, run_bind_ok (congrArg Logged.value resolved), resolved]
    rfl
  have detected : Handler.detect .standard true type =
      ⟨[.handlerArmsDropped type 2 handler], some ⟨.bubble, [.keyword .null], true⟩⟩ := rfl
  exact run_propertyEvent_made _ _ _ detected made

end Extraction
end ComponentEvents
