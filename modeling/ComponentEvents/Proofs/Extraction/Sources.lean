/-
This file shows which part of an extraction makes which notes.
-/

import ComponentEvents.Extraction.Events
import ComponentEvents.Proofs.Walk.Payload

namespace ComponentEvents

variable {config : Config}

/-- All these notes come from one part of an extraction. -/
def FromSource (source : LogSource) (notes : List LogEntry) : Prop :=
  ∀ entry ∈ notes, entry.source = source

namespace FromSource

theorem nil (source : LogSource) : FromSource source [] := nofun

/-- Notes from one part are not counted for another one. -/
theorem countP_eq_zero {source source' : LogSource} {notes : List LogEntry}
    (made : FromSource source notes) (other : source' ≠ source) :
    notes.countP (·.source = source') = 0 := by
  rw [List.countP_eq_zero]
  intro entry noted same
  exact other ((of_decide_eq_true same).symm.trans (made entry noted))

end FromSource

/-- A dropped arm is noted in the given form and in no other way. -/
theorem Logged.fromSource_noteDropped {source : LogSource}
    (form : TypeExpr → Nat → TypeExpr → LogEntry)
    (made : ∀ union count first, (form union count first).source = source)
    (arms : List TypeExpr) : FromSource source (noteDropped config form arms).log := by
  unfold noteDropped
  split
  · split
    · intro entry belongs
      rw [tell, List.mem_singleton] at belongs
      rw [belongs]
      exact made _ _ _
    · exact nofun
  · exact nofun

/-- What holds of the notes of both parts holds of all notes. -/
theorem Extraction.forall_log_bind {α β : Type} {kind : LogEntry → Prop}
    {first : Extraction α} {next : α → Extraction β} (noted : ∀ entry ∈ first.run.log, kind entry)
    (notedNext : ∀ value, ∀ entry ∈ (next value).run.log, kind entry) :
    ∀ entry ∈ (first >>= next).run.log, kind entry := by
  cases outcome : first.run.value with
  | error error =>
      rw [run_bind_error outcome]
      exact noted
  | ok value =>
      rw [run_bind_ok outcome]
      exact List.forall_mem_append.mpr ⟨noted, notedNext value⟩

namespace Handler

mutual

/-- The search for a handler makes all its notes. -/
theorem detect_fromSource :
    ∀ {optional type}, FromSource .search (detect config optional type).log
  | optional, .parenthesized inner => by
      rw [detect]
      exact detect_fromSource
  | optional, .union arms => by
      rw [detect, Logged.log_bind]
      have dropped : FromSource .search (Logged.noteDropped config .handlerArmsDropped arms).log :=
        Logged.fromSource_noteDropped .handlerArmsDropped (fun _ _ _ => rfl) arms
      exact List.forall_mem_append.mpr ⟨dropped, detectFirst_fromSource⟩
  | optional, .reference _ _ | optional, .keyword _ | optional, .literal _
  | optional, .intersection _ | optional, .object _ | optional, .interfaceDecl _ _ _
  | optional, .aliasDecl _ _ => by
      simp only [detect]
      exact .nil _

theorem detectFirst_fromSource :
    ∀ {optional arms}, FromSource .search (detectFirst config optional arms).log
  | optional, [] => by
      rw [detectFirst]
      exact .nil _
  | optional, arm :: arms => by
      rw [detectFirst]
      split
      · exact detectFirst_fromSource
      · exact detect_fromSource

end

end Handler

namespace Payload

/-- The walk to a payload makes all its notes. -/
theorem resolve_fromSource (config : Config) (declarations : Declarations) (chain : Chain)
    (dispatch : Option Dispatch) (legacy : Option String) (node : TypeExpr) :
    FromSource .walk (resolve config declarations chain dispatch legacy node).run.log := by
  induction chain, dispatch, legacy, node using resolve_induction config declarations with
  | interfaceDecl chain dispatch legacy name own heritage =>
      rw [resolve_interfaceDecl]
      exact .nil _
  | object chain dispatch legacy own =>
      rw [resolve_object]
      exact .nil _
  | missingArgument chain dispatch legacy =>
      rw [resolve_missingArgument]
      exact .nil _
  | readonly chain dispatch legacy first rest inductionHypothesis =>
      rw [resolve_readonly]
      exact inductionHypothesis
  | noPayload chain dispatch legacy inner =>
      rw [resolve_noPayload]
      exact .nil _
  | legacyRefused chain dispatch legacy inner payload rest error refused =>
      rw [resolve_legacyRefused dispatch legacy refused]
      exact .nil _
  | nullish chain dispatch legacy inner payload rest innerLegacy legal missing =>
      rw [resolve_nullish dispatch legacy legal missing]
      exact .nil _
  | payload chain dispatch legacy inner payload rest innerLegacy legal present
      inductionHypothesis =>
      rw [resolve_payload dispatch legacy legal present]
      exact inductionHypothesis
  | undeclared chain dispatch legacy name arguments other noHandler absent =>
      rw [resolve_undeclared dispatch legacy arguments other noHandler absent]
      exact List.forall_mem_singleton.mpr rfl
  | admitted chain dispatch legacy name arguments definition other noHandler found admitted
      inductionHypothesis =>
      rw [resolve_admitted dispatch legacy arguments other noHandler found admitted]
      exact List.forall_mem_cons.mpr ⟨rfl, inductionHypothesis⟩
  | refused chain dispatch legacy name arguments definition other noHandler found refused =>
      rw [resolve_refused dispatch legacy arguments other noHandler found refused]
      exact .nil _
  | notSource chain dispatch legacy node noSource =>
      rw [resolve_notSource dispatch legacy noSource]
      exact .nil _

mutual

/-- The fields of a payload make all their notes. -/
theorem field_fromSource (name : String) (optional : Bool) :
    ∀ type, FromSource .fields (field config name optional type).run.log
  | .parenthesized inner => by
      rw [field]
      exact field_fromSource name optional inner
  | .reference target arguments => by
      unfold field
      cases Scalar.ofTypeName? target with
      | some scalar => exact .nil _
      | none =>
          cases arguments with
          | nil => exact .nil _
          | cons first rest =>
              by_cases readonly : target = TypeExpr.readonlyName
              · simp only [if_pos readonly]
                exact field_fromSource name optional first
              · simp only [if_neg readonly]
                exact .nil _
  | .object members => by
      rw [field]
      exact Extraction.forall_log_bind (memberFields_fromSource members) fun _ =>
        FromSource.nil .fields
  | .union arms => by
      unfold field
      split
      · have dropped : FromSource .fields
            (Logged.noteDropped config (.propertyArmsDropped name) arms).log :=
          Logged.fromSource_noteDropped (.propertyArmsDropped name) (fun _ _ _ => rfl) arms
        refine Extraction.forall_log_bind ?_ fun _ => firstField_fromSource name arms
        rw [Extraction.run_monadLift]
        exact dropped
      · split <;> exact .nil _
  | .keyword keyword => by
      cases keyword <;> exact .nil _
  | .literal _ | .intersection _ | .interfaceDecl _ _ _ | .aliasDecl _ _ => by
      simp only [field]
      exact .nil _

theorem firstField_fromSource (name : String) :
    ∀ arms, FromSource .fields (firstField config name arms).run.log
  | [] => by
      rw [firstField]
      exact .nil _
  | arm :: arms => by
      rw [firstField]
      split
      · exact firstField_fromSource name arms
      · exact field_fromSource name true arm

theorem memberField_fromSource :
    ∀ member, FromSource .fields (memberField config member).run.log
  | .property key type optional => by
      rw [memberField]
      exact field_fromSource key optional type
  | .method _ | .index _ _ | .call _ | .spread _ => by
      simp only [memberField]
      exact .nil _

theorem memberFields_fromSource :
    ∀ members, FromSource .fields (memberFields config members).run.log
  | [] => by
      rw [memberFields]
      exact .nil _
  | member :: members => by
      rw [memberFields]
      refine Extraction.forall_log_bind (memberField_fromSource member) fun first => ?_
      exact Extraction.forall_log_bind (memberFields_fromSource members) fun rest =>
        FromSource.nil .fields

end

end Payload
end ComponentEvents
