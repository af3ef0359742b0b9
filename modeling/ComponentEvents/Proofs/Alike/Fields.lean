/-
This file shows that alike types are the same handlers and make the same fields.
-/

import ComponentEvents.Handler
import ComponentEvents.Payload.Fields
import ComponentEvents.Proofs.Alike.Outcomes

namespace ComponentEvents

variable {rename : Renaming}

namespace Handler

/-- Alike handlers differ in their arguments only. -/
structure Alike (rename : Renaming) (handler handler' : Handler) : Prop where
  dispatch : handler'.dispatch = handler.dispatch
  arguments : List.Forall₂ (TypeExpr.Alike rename) handler.arguments handler'.arguments
  optional : handler'.optional = handler.optional

theorem Alike.reference {handler handler' : Handler} (alike : handler.Alike rename handler') :
    handler.reference.Alike rename handler'.reference := by
  have named : handler'.reference =
      .reference (rename handler.dispatch.wrapperName) handler'.arguments := by
    rw [rename.apply_wrapperName, Handler.reference, alike.dispatch]
  rw [named]
  exact .reference _ alike.arguments

variable (config : Config)

mutual

/-- A handler is found in both of two alike types or in neither. -/
theorem detect_alike (optional : Bool) :
    ∀ {type type' : TypeExpr}, type.Alike rename type' →
      Option.Rel (Alike rename) (detect config optional type).value
        (detect config optional type').value
  | .parenthesized inner, _, alike => by
      cases alike with
      | parenthesized alike =>
          rw [detect, detect]
          exact detect_alike optional alike
  | .union arms, _, alike => by
      cases alike with
      | union nullish alike =>
          rw [detect, detect, Logged.value_bind, Logged.value_bind, nullish]
          exact detectFirst_alike _ alike
  | .reference name arguments, _, alike => by
      cases alike with
      | reference _ alike =>
          rw [detect, detect, Logged.value_pure, Logged.value_pure, rename.ofWrapperName?_apply]
          cases Dispatch.ofWrapperName? name with
          | none => exact .none
          | some dispatch => exact .some ⟨rfl, alike, rfl⟩
  | .keyword _, _, alike | .literal _, _, alike | .intersection _, _, alike
  | .object _, _, alike | .interfaceDecl _ _ _, _, alike | .aliasDecl _ _, _, alike => by
      cases alike
      simp only [detect, Logged.value_pure]
      exact .none

/-- The first arms that are not nullish decide, and they are alike. -/
theorem detectFirst_alike (optional : Bool) :
    ∀ {arms arms' : List TypeExpr},
      List.Forall₂ (TypeExpr.Alike rename) (TypeExpr.otherArms arms)
          (TypeExpr.otherArms arms') →
        Option.Rel (Alike rename) (detectFirst config optional arms).value
          (detectFirst config optional arms').value
  | [], arms', alike => by
      rw [TypeExpr.otherArms, List.filter_nil, List.forall₂_nil_left_iff] at alike
      rw [detectFirst, detectFirst_eq config optional arms', alike]
      exact .none
  | arm :: arms, arms', alike => by
      rw [detectFirst]
      cases missing : arm.isNullish with
      | true =>
          rw [TypeExpr.otherArms_cons_nullish arms missing] at alike
          exact detectFirst_alike optional alike
      | false =>
          rw [TypeExpr.otherArms_cons_other arms missing, List.forall₂_cons_left_iff] at alike
          obtain ⟨first', rest', first, -, others⟩ := alike
          rw [detectFirst_eq config optional arms', others]
          exact detect_alike optional first

end

end Handler

namespace Payload

theorem unsupported_alike (name : String) {kind kind' : String}
    (called : kind' = kind ∨ kind' = rename kind) :
    AlikeOutcomes rename Eq (unsupported name kind : Extraction (Field String Bool)).run.value
      (unsupported name kind' : Extraction (Field String Bool)).run.value :=
  .error (.ofCause (.unsupportedProperty name called))

theorem mapM_stringLiteral?_alike {arms arms' : List TypeExpr}
    (alike : List.Forall₂ (TypeExpr.Alike rename) arms arms') :
    arms'.mapM TypeExpr.stringLiteral? = arms.mapM TypeExpr.stringLiteral? := by
  induction alike with
  | nil => rfl
  | cons first _ inductionHypothesis =>
      rw [List.mapM_cons, List.mapM_cons, first.stringLiteral?, inductionHypothesis]

variable (config : Config)

mutual

/-- Alike types make the same field, or both are refused. -/
theorem field_alike (name : String) (optional : Bool) :
    ∀ {type type' : TypeExpr}, type.Alike rename type' →
      AlikeOutcomes rename Eq (field config name optional type).run.value
        (field config name optional type').run.value
  | .parenthesized inner, _, alike => by
      cases alike with
      | parenthesized alike =>
          rw [field, field]
          exact field_alike name optional alike
  | .keyword keyword, _, alike => by
      cases alike
      cases keyword with
      | boolean | string => exact .ok rfl
      | _ => exact unsupported_alike name (Or.inl rfl)
  | .reference target arguments, _, alike => by
      cases alike with
      | reference _ alike =>
          unfold field
          rw [rename.ofTypeName?_apply]
          cases Scalar.ofTypeName? target with
          | some scalar => exact .ok rfl
          | none =>
              cases alike with
              | nil => exact unsupported_alike name (Or.inr rfl)
              | cons first _ =>
                  simp only [rename.apply_eq_readonlyName_iff]
                  split
                  · exact field_alike name optional first
                  · exact unsupported_alike name (Or.inr rfl)
  | .object members, _, alike => by
      cases alike with
      | object alike =>
          rw [field, field]
          refine (memberFields_alike alike).bind ?_
          rintro fields _ rfl
          exact .ok rfl
  | .union arms, _, alike => by
      cases alike with
      | @union _ arms' nullish alike =>
          unfold field
          rw [nullish]
          cases missing : TypeExpr.hasNullish arms with
          | true => exact (AlikeOutcomes.ok rfl).bind fun _ => firstField_alike name alike
          | false =>
              rw [TypeExpr.otherArms_eq_self_iff.mpr missing,
                TypeExpr.otherArms_eq_self_iff.mpr (nullish.trans missing)] at alike
              simp only [Bool.false_eq_true, if_false, mapM_stringLiteral?_alike alike]
              generalize arms.mapM TypeExpr.stringLiteral? = texts
              match texts with
              | some (_ :: _) => exact .ok rfl
              | some [] | none => exact unsupported_alike name (Or.inl rfl)
  | .literal _, _, alike | .intersection _, _, alike | .interfaceDecl _ _ _, _, alike
  | .aliasDecl _ _, _, alike => by
      cases alike
      simp only [field]
      exact unsupported_alike name (Or.inl rfl)
termination_by structural type => type

theorem firstField_alike (name : String) :
    ∀ {arms arms' : List TypeExpr},
      List.Forall₂ (TypeExpr.Alike rename) (TypeExpr.otherArms arms)
          (TypeExpr.otherArms arms') →
        AlikeOutcomes rename Eq (firstField config name arms).run.value
          (firstField config name arms').run.value
  | [], arms', alike => by
      rw [TypeExpr.otherArms, List.filter_nil, List.forall₂_nil_left_iff] at alike
      rw [firstField, firstField_eq config name arms', alike]
      exact unsupported_alike name (Or.inl rfl)
  | arm :: arms, arms', alike => by
      rw [firstField]
      cases missing : arm.isNullish with
      | true =>
          rw [TypeExpr.otherArms_cons_nullish arms missing] at alike
          exact firstField_alike name alike
      | false =>
          rw [TypeExpr.otherArms_cons_other arms missing, List.forall₂_cons_left_iff] at alike
          obtain ⟨first', rest', first, -, others⟩ := alike
          rw [firstField_eq config name arms', others]
          exact field_alike name true first
termination_by structural arms => arms

theorem memberField_alike :
    ∀ {member member' : Member}, member.Alike rename member' →
      AlikeOutcomes rename Eq (memberField config member).run.value
        (memberField config member').run.value
  | .property key type optional, _, alike => by
      cases alike with
      | property _ _ alike =>
          rw [memberField, memberField]
          exact field_alike key optional alike
  | .method _, _, alike | .index _ _, _, alike | .call _, _, alike | .spread _, _, alike => by
      cases alike
      simp only [memberField]
      exact unsupported_alike _ (Or.inl rfl)
termination_by structural member => member

theorem memberFields_alike :
    ∀ {members members' : List Member}, List.Forall₂ (Member.Alike rename) members members' →
      AlikeOutcomes rename Eq (memberFields config members).run.value
        (memberFields config members').run.value
  | [], _, alike => by
      cases alike
      exact .ok rfl
  | member :: members, _, alike => by
      cases alike with
      | cons first rest =>
          rw [memberFields, memberFields]
          refine (memberField_alike first).bind ?_
          rintro field _ rfl
          refine (memberFields_alike rest).bind ?_
          rintro fields _ rfl
          exact .ok rfl
termination_by structural members => members

end

end Payload
end ComponentEvents
