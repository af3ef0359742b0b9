/-
This file holds the walk that enters every declared name.
-/

import ComponentEvents.Proofs.Walk.Members
import ComponentEvents.Proofs.Walk.Payload

namespace ComponentEvents

namespace Heritage

/-- The walk for members without a guard ends at the node with the outcome. Nodes that follow each
other are walked like the parts of an intersection, and the first failure among them counts. -/
inductive Collects (declarations : Declarations) :
    TypeExpr → Except ExtractionError (List Member) → Prop
  | object (own : List Member) : Collects declarations (.object own) (.ok own)
  | interfaceDecl {heritage : List TypeExpr} {inherited : Except ExtractionError (List Member)}
      (name : String) (own : List Member)
      (collected : Collects declarations (.intersection heritage) inherited) :
      Collects declarations (.interfaceDecl name own heritage) (inherited.map (· ++ own))
  | noParts : Collects declarations (.intersection []) (.ok [])
  | failedPart {node : TypeExpr} {error : ExtractionError} (nodes : List TypeExpr)
      (collected : Collects declarations node (.error error)) :
      Collects declarations (.intersection (node :: nodes)) (.error error)
  | parts {node : TypeExpr} {nodes : List TypeExpr} {first : List Member}
      {rest : Except ExtractionError (List Member)}
      (collected : Collects declarations node (.ok first))
      (collectedRest : Collects declarations (.intersection nodes) rest) :
      Collects declarations (.intersection (node :: nodes)) (rest.map (first ++ ·))
  | missingArgument : Collects declarations (.reference TypeExpr.readonlyName [])
      (blocked (.missingArgument TypeExpr.readonlyName))
  | readonly {first : TypeExpr} {outcome : Except ExtractionError (List Member)}
      (rest : List TypeExpr) (collected : Collects declarations first outcome) :
      Collects declarations (.reference TypeExpr.readonlyName (first :: rest)) outcome
  | undeclared {name : String} (arguments : List TypeExpr) (other : name ≠ TypeExpr.readonlyName)
      (absent : declarations.find? name = none) :
      Collects declarations (.reference name arguments) (blocked (.undeclared name))
  | declared {name : String} {definition : TypeExpr}
      {outcome : Except ExtractionError (List Member)} (arguments : List TypeExpr)
      (other : name ≠ TypeExpr.readonlyName)
      (found : declarations.find? name = some definition)
      (collected : Collects declarations definition.unaliased outcome) :
      Collects declarations (.reference name arguments) outcome
  | notSource {node : TypeExpr} (noSource : isSource node = false) :
      Collects declarations node (blocked (.notFlattenable node.nodeKind))

variable {declarations : Declarations}

/-- The walk for members has at most one outcome. -/
theorem Collects.unique {node : TypeExpr} {first second : Except ExtractionError (List Member)}
    (left : Collects declarations node first) (right : Collects declarations node second) :
    first = second := by
  induction left generalizing second with
  | object own =>
      cases right with
      | object => rfl
      | notSource noSource => cases noSource
  | interfaceDecl name own collected inductionHypothesis =>
      cases right with
      | interfaceDecl _ _ collected => rw [inductionHypothesis collected]
      | notSource noSource => cases noSource
  | noParts =>
      cases right with
      | noParts => rfl
      | notSource noSource => cases noSource
  | failedPart nodes collected inductionHypothesis =>
      cases right with
      | failedPart _ collected => exact inductionHypothesis collected
      | parts collected _ => cases inductionHypothesis collected
      | notSource noSource => cases noSource
  | parts collected collectedRest firstHypothesis restHypothesis =>
      cases right with
      | failedPart _ collected => cases firstHypothesis collected
      | parts collected collectedRest =>
          cases firstHypothesis collected
          rw [restHypothesis collectedRest]
      | notSource noSource => cases noSource
  | missingArgument =>
      cases right with
      | missingArgument => rfl
      | undeclared _ other => exact absurd rfl other
      | declared _ other => exact absurd rfl other
      | notSource noSource => cases noSource
  | readonly rest collected inductionHypothesis =>
      cases right with
      | readonly _ collected => exact inductionHypothesis collected
      | undeclared _ other => exact absurd rfl other
      | declared _ other => exact absurd rfl other
      | notSource noSource => cases noSource
  | undeclared arguments other absent =>
      cases right with
      | missingArgument => exact absurd rfl other
      | readonly => exact absurd rfl other
      | undeclared => rfl
      | declared _ _ found => cases absent.symm.trans found
      | notSource noSource => cases noSource
  | declared arguments other found collected inductionHypothesis =>
      cases right with
      | missingArgument => exact absurd rfl other
      | readonly => exact absurd rfl other
      | undeclared _ _ absent => cases absent.symm.trans found
      | declared _ _ found' collected =>
          cases found.symm.trans found'
          exact inductionHypothesis collected
      | notSource noSource => cases noSource
  | notSource noSource =>
      cases right with
      | notSource => rfl
      | _ => cases noSource

end Heritage

namespace Payload

/-- The walk for a payload without a guard ends at the node with the outcome, where the dispatch
and the legacy name are those found so far. -/
inductive Resolves (declarations : Declarations) :
    Option Dispatch → Option String → TypeExpr → Except ExtractionError Resolution → Prop
  | interfaceDecl {name : String} {own : List Member} {heritage : List TypeExpr}
      {outcome : Except ExtractionError (List Member)} (dispatch : Option Dispatch)
      (legacy : Option String)
      (collected : Heritage.Collects declarations (.interfaceDecl name own heritage) outcome) :
      Resolves declarations dispatch legacy (.interfaceDecl name own heritage)
        (outcome.map (⟨some ·, dispatch, legacy⟩))
  | object (dispatch : Option Dispatch) (legacy : Option String) (own : List Member) :
      Resolves declarations dispatch legacy (.object own) (.ok ⟨some own, dispatch, legacy⟩)
  | missingArgument (dispatch : Option Dispatch) (legacy : Option String) :
      Resolves declarations dispatch legacy (.reference TypeExpr.readonlyName [])
        (Heritage.blocked (.missingArgument TypeExpr.readonlyName))
  | readonly {dispatch : Option Dispatch} {legacy : Option String} {first : TypeExpr}
      {outcome : Except ExtractionError Resolution} (rest : List TypeExpr)
      (resolved : Resolves declarations dispatch legacy first outcome) :
      Resolves declarations dispatch legacy
        (.reference TypeExpr.readonlyName (first :: rest)) outcome
  | noPayload (dispatch : Option Dispatch) (legacy : Option String) (inner : Dispatch) :
      Resolves declarations dispatch legacy (.reference inner.wrapperName [])
        (Heritage.blocked (.missingArgument inner.wrapperName))
  | legacyRefused {inner : Dispatch} {payload : TypeExpr} {rest : List TypeExpr}
      {error : ExtractionError} (dispatch : Option Dispatch) (legacy : Option String)
      (refused : legacyName inner.wrapperName (payload :: rest) = .error error) :
      Resolves declarations dispatch legacy (.reference inner.wrapperName (payload :: rest))
        (.error error)
  | nullish {inner : Dispatch} {payload : TypeExpr} {rest : List TypeExpr}
      {innerLegacy : Option String} (dispatch : Option Dispatch) (legacy : Option String)
      (legal : legacyName inner.wrapperName (payload :: rest) = .ok innerLegacy)
      (missing : payload.isNullish = true) :
      Resolves declarations dispatch legacy (.reference inner.wrapperName (payload :: rest))
        (.ok ⟨some [], some inner, innerLegacy⟩)
  | payload {inner : Dispatch} {payload : TypeExpr} {rest : List TypeExpr}
      {innerLegacy : Option String} {outcome : Except ExtractionError Resolution}
      (dispatch : Option Dispatch) (legacy : Option String)
      (legal : legacyName inner.wrapperName (payload :: rest) = .ok innerLegacy)
      (present : payload.isNullish = false)
      (resolved : Resolves declarations (some inner) innerLegacy payload outcome) :
      Resolves declarations dispatch legacy (.reference inner.wrapperName (payload :: rest))
        outcome
  | undeclared {name : String} (dispatch : Option Dispatch) (legacy : Option String)
      (arguments : List TypeExpr) (other : name ≠ TypeExpr.readonlyName)
      (noHandler : Dispatch.ofWrapperName? name = none)
      (absent : declarations.find? name = none) :
      Resolves declarations dispatch legacy (.reference name arguments) (.ok .unresolved)
  | declared {dispatch : Option Dispatch} {legacy : Option String} {name : String}
      {definition : TypeExpr} {outcome : Except ExtractionError Resolution}
      (arguments : List TypeExpr) (other : name ≠ TypeExpr.readonlyName)
      (noHandler : Dispatch.ofWrapperName? name = none)
      (found : declarations.find? name = some definition)
      (resolved : Resolves declarations dispatch legacy definition.unaliased outcome) :
      Resolves declarations dispatch legacy (.reference name arguments) outcome
  | notSource {node : TypeExpr} (dispatch : Option Dispatch) (legacy : Option String)
      (noSource : isSource node = false) :
      Resolves declarations dispatch legacy node (Heritage.blocked (.unnamed node.nodeKind))

end Payload
end ComponentEvents
