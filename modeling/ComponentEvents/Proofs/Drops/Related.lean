/-
This file compares extractions with different rules for the arms that a union drops.
-/

import ComponentEvents.Proofs.Drops.Rule
import ComponentEvents.Proofs.Extraction.Sources

namespace ComponentEvents

namespace Extraction

variable {α β : Type}

/-- The computation warns of nothing. -/
def Quiet (extraction : Extraction α) : Prop :=
  ∀ entry ∈ extraction.run.log, entry.level ≠ .warning

theorem quiet_of_noLog {extraction : Extraction α} (noLog : extraction.run.log = []) :
    Quiet extraction := by
  intro entry noted
  rw [noLog] at noted
  cases noted

theorem quiet_note {entry : LogEntry} (silent : entry.level ≠ .warning) : Quiet (note entry) := by
  intro other noted
  rw [run_note, List.mem_singleton] at noted
  exact noted ▸ silent

/-- A computation of two parts that returns warns of nothing exactly where neither part does. -/
theorem quiet_bind_iff {first : Extraction α} {next : α → Extraction β} {value : α}
    (returned : first.run.value = .ok value) :
    Quiet (first >>= next) ↔ Quiet first ∧ Quiet (next value) := by
  unfold Quiet
  rw [run_bind_ok returned]
  simp only [List.mem_append, or_imp, forall_and]

theorem quiet_bind {first : Extraction α} {next : α → Extraction β} (quiet : Quiet first)
    (quietNext : ∀ value, Quiet (next value)) : Quiet (first >>= next) :=
  forall_log_bind quiet quietNext

theorem quiet_inEvent_iff (event : String) (extraction : Extraction α) :
    Quiet (inEvent event extraction) ↔ Quiet extraction := by
  unfold Quiet
  rw [log_inEvent]

end Extraction

/-- A walk to a payload warns of nothing. -/
theorem Payload.quiet_resolve (config : Config) (declarations : Declarations) (chain : Chain)
    (dispatch : Option Dispatch) (legacy : Option String) (node : TypeExpr) :
    Extraction.Quiet (resolve config declarations chain dispatch legacy node) := by
  intro entry noted
  have walked := resolve_fromSource config declarations chain dispatch legacy node entry noted
  cases entry <;> cases walked <;> exact nofun

/-- The steps of an extraction keep the relation, and what warns of nothing is related to itself. -/
structure Extraction.Lifts (related : (α : Type) → Extraction α → Extraction α → Prop) : Prop where
  quiet : ∀ {α : Type} {extraction : Extraction α}, Quiet extraction →
    related α extraction extraction
  bind : ∀ {α β : Type} {first first' : Extraction α} {next next' : α → Extraction β},
    related α first first' → (∀ value, related β (next value) (next' value)) →
      related β (first >>= next) (first' >>= next')
  inEvent : ∀ {α : Type} {extraction extraction' : Extraction α} (event : String),
    related α extraction extraction' →
      related α (inEvent event extraction) (inEvent event extraction')

namespace Extraction.Lifts

variable {related : (α : Type) → Extraction α → Extraction α → Prop} {α : Type}

theorem value (lifts : Lifts related) (value : α) : related α (pure value) (pure value) :=
  lifts.quiet (quiet_of_noLog rfl)

theorem unsupported (lifts : Lifts related) (name kind : String) :
    related α (Payload.unsupported name kind) (Payload.unsupported name kind) :=
  lifts.quiet (quiet_of_noLog rfl)

end Extraction.Lifts

namespace DropRule

open Extraction

/-- Both rules do the same with the same arms, up to the relation. -/
structure Related (related : (α : Type) → Extraction α → Extraction α → Prop)
    (rule rule' : DropRule) : Prop where
  handlerArms : ∀ arms, related Unit (rule.handlerArms arms) (rule'.handlerArms arms)
  propertyArms : ∀ name arms,
    related Unit (rule.propertyArms name arms) (rule'.propertyArms name arms)

variable {related : (α : Type) → Extraction α → Extraction α → Prop} {rule rule' : DropRule}

mutual

/-- Related rules find related handlers. -/
theorem detect_related (lifts : Lifts related) (rules : Related related rule rule')
    (optional : Bool) : ∀ type, related _ (rule.detect optional type) (rule'.detect optional type)
  | .parenthesized inner => by
      rw [detect, detect]
      exact detect_related lifts rules optional inner
  | .union arms => by
      rw [detect, detect]
      exact lifts.bind (rules.handlerArms arms) fun _ => detectFirst_related lifts rules _ arms
  | .reference _ _ | .keyword _ | .literal _ | .intersection _ | .object _
  | .interfaceDecl _ _ _ | .aliasDecl _ _ => by
      simp only [detect]
      exact lifts.value _

theorem detectFirst_related (lifts : Lifts related) (rules : Related related rule rule')
    (optional : Bool) : ∀ arms,
    related _ (rule.detectFirst optional arms) (rule'.detectFirst optional arms)
  | [] => by
      rw [detectFirst, detectFirst]
      exact lifts.value none
  | arm :: arms => by
      rw [detectFirst, detectFirst]
      split
      · exact detectFirst_related lifts rules optional arms
      · exact detect_related lifts rules optional arm

end

mutual

/-- Related rules make related fields. -/
theorem field_related (lifts : Lifts related) (rules : Related related rule rule') (name : String)
    (optional : Bool) : ∀ type,
    related _ (rule.field name optional type) (rule'.field name optional type)
  | .parenthesized inner => by
      rw [field, field]
      exact field_related lifts rules name optional inner
  | .reference target arguments => by
      unfold field
      cases Scalar.ofTypeName? target with
      | some scalar => exact lifts.value _
      | none =>
          cases arguments with
          | nil => exact lifts.unsupported name target
          | cons first rest =>
              by_cases readonly : target = TypeExpr.readonlyName
              · simp only [if_pos readonly]
                exact field_related lifts rules name optional first
              · simp only [if_neg readonly]
                exact lifts.unsupported name target
  | .object members => by
      rw [field, field]
      exact lifts.bind (memberFields_related lifts rules members) fun _ => lifts.value _
  | .union arms => by
      unfold field
      by_cases nullish : TypeExpr.hasNullish arms = true
      · simp only [if_pos nullish]
        exact lifts.bind (rules.propertyArms name arms) fun _ =>
          firstField_related lifts rules name arms
      · simp only [if_neg nullish]
        split
        · exact lifts.value _
        · exact lifts.unsupported name _
  | .keyword keyword => by
      cases keyword <;> simp only [field]
      case boolean | string => exact lifts.value _
      all_goals exact lifts.unsupported name _
  | .literal _ | .intersection _ | .interfaceDecl _ _ _ | .aliasDecl _ _ => by
      simp only [field]
      exact lifts.unsupported name _

theorem firstField_related (lifts : Lifts related) (rules : Related related rule rule')
    (name : String) : ∀ arms, related _ (rule.firstField name arms) (rule'.firstField name arms)
  | [] => by
      rw [firstField, firstField]
      exact lifts.unsupported name _
  | arm :: arms => by
      rw [firstField, firstField]
      split
      · exact firstField_related lifts rules name arms
      · exact field_related lifts rules name true arm

theorem memberField_related (lifts : Lifts related) (rules : Related related rule rule') :
    ∀ member, related _ (rule.memberField member) (rule'.memberField member)
  | .property key type optional => by
      rw [memberField, memberField]
      exact field_related lifts rules key optional type
  | .method _ | .index _ _ | .call _ | .spread _ => by
      simp only [memberField]
      exact lifts.unsupported _ _

theorem memberFields_related (lifts : Lifts related) (rules : Related related rule rule') :
    ∀ members, related _ (rule.memberFields members) (rule'.memberFields members)
  | [] => by
      rw [memberFields, memberFields]
      exact lifts.value []
  | member :: members => by
      rw [memberFields, memberFields]
      refine lifts.bind (memberField_related lifts rules member) fun first => ?_
      exact lifts.bind (memberFields_related lifts rules members) fun rest => lifts.value _

end

variable {config config' : Config} {declarations : Declarations}

/-- The walks from a node are related. -/
def WalksRelated (related : (α : Type) → Extraction α → Extraction α → Prop)
    (config config' : Config) (declarations : Declarations) : Prop :=
  ∀ node, related Resolution (Payload.resolve config declarations [] none none node)
    (Payload.resolve config' declarations [] none none node)

theorem handlerEvent_related (lifts : Lifts related) (rules : Related related rule rule')
    (walks : WalksRelated related config config' declarations) (name : String)
    (handler : Handler) :
    related _ (rule.handlerEvent config declarations name handler)
      (rule'.handlerEvent config' declarations name handler) := by
  unfold handlerEvent
  refine lifts.bind (walks handler.reference) fun resolution => ?_
  split
  · exact lifts.bind (memberFields_related lifts rules _) fun fields => lifts.value _
  · exact lifts.quiet (quiet_of_noLog rfl)

theorem memberEvent_related (lifts : Lifts related) (rules : Related related rule rule')
    (walks : WalksRelated related config config' declarations) (member : Member) :
    related _ (rule.memberEvent config declarations member)
      (rule'.memberEvent config' declarations member) := by
  cases member with
  | property key type optional =>
      refine lifts.bind (detect_related lifts rules optional type) fun found => ?_
      cases found with
      | none => exact lifts.quiet (quiet_bind (quiet_note nofun) fun _ => quiet_of_noLog rfl)
      | some handler =>
          have event := handlerEvent_related lifts rules walks key handler
          exact lifts.bind (lifts.inEvent key event) fun _ => lifts.value _
  | _ => exact lifts.quiet (quiet_bind (quiet_note nofun) fun _ => quiet_of_noLog rfl)

theorem memberEvents_related (lifts : Lifts related) (rules : Related related rule rule')
    (walks : WalksRelated related config config' declarations) (members : List Member) :
    related _ (rule.memberEvents config declarations members)
      (rule'.memberEvents config' declarations members) := by
  induction members with
  | nil => exact lifts.value []
  | cons member members inductionHypothesis =>
      refine lifts.bind (memberEvent_related lifts rules walks member) fun first => ?_
      exact lifts.bind inductionHypothesis fun rest => lifts.value _

/-- Extractions with related rules are related. -/
theorem events_related (lifts : Lifts related) (rules : Related related rule rule')
    (walks : WalksRelated related config config' declarations) (members : List Member) :
    related _ (rule.events config declarations members)
      (rule'.events config' declarations members) := by
  refine lifts.bind (memberEvents_related lifts rules walks members) fun found => ?_
  exact lifts.quiet (quiet_bind (quiet_note nofun) fun _ => quiet_of_noLog rfl)

end DropRule
end ComponentEvents
