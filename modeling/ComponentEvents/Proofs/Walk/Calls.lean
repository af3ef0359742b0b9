/-
This file says which calls a walk makes and that it does not end on a cycle of them.
-/

import Mathlib.Logic.Relation
import ComponentEvents.Proofs.Walk.Positions
import ComponentEvents.Proofs.Walk.Unguarded

namespace ComponentEvents

namespace Heritage

variable {declarations : Declarations}

/-- The first node is a reference, and the second one is what it stands for. -/
inductive Follows (declarations : Declarations) : TypeExpr → TypeExpr → Prop
  | readonly (first : TypeExpr) (rest : List TypeExpr) :
      Follows declarations (.reference TypeExpr.readonlyName (first :: rest)) first
  | declared {name : String} {definition : TypeExpr} (arguments : List TypeExpr)
      (other : name ≠ TypeExpr.readonlyName)
      (found : declarations.find? name = some definition) :
      Follows declarations (.reference name arguments) definition.unaliased

/-- A read-only type stands for its first argument alone. -/
theorem Follows.eq_of_readonly {first below : TypeExpr} {rest : List TypeExpr}
    (follows : Follows declarations (.reference TypeExpr.readonlyName (first :: rest)) below) :
    below = first := by
  cases follows with
  | readonly => rfl
  | declared _ other => exact absurd rfl other

/-- Any other name stands for its definition alone. -/
theorem Follows.exists_of_other {name : String} {arguments : List TypeExpr} {below : TypeExpr}
    (follows : Follows declarations (.reference name arguments) below)
    (other : name ≠ TypeExpr.readonlyName) :
    ∃ definition, declarations.find? name = some definition ∧ below = definition.unaliased := by
  cases follows with
  | readonly => exact absurd rfl other
  | declared _ _ found => exact ⟨_, found, rfl⟩

/-- The walk for members calls itself on the second node while it is at the first. A part is called
only after the parts before it. -/
inductive Calls (declarations : Declarations) : TypeExpr → TypeExpr → Prop
  | heritage (name : String) (own : List Member) (heritage : List TypeExpr) :
      Calls declarations (.interfaceDecl name own heritage) (.intersection heritage)
  | part (node : TypeExpr) (nodes : List TypeExpr) :
      Calls declarations (.intersection (node :: nodes)) node
  | parts {node : TypeExpr} {first : List Member} (nodes : List TypeExpr)
      (collected : Collects declarations node (.ok first)) :
      Calls declarations (.intersection (node :: nodes)) (.intersection nodes)
  | reference {node below : TypeExpr} (follows : Follows declarations node below) :
      Calls declarations node below

/-- No sequence of nested calls goes on for ever below the node. -/
def Ends (declarations : Declarations) : TypeExpr → Prop :=
  Acc fun below node => Calls declarations node below

/-- A walk with an outcome ends. -/
theorem Collects.ends {node : TypeExpr} {outcome : Except ExtractionError (List Member)}
    (collected : Collects declarations node outcome) : Ends declarations node := by
  induction collected with
  | object own =>
      refine ⟨_, fun below call => ?_⟩
      cases call with
      | reference follows => cases follows
  | interfaceDecl name own collected inductionHypothesis =>
      refine ⟨_, fun below call => ?_⟩
      cases call with
      | heritage => exact inductionHypothesis
      | reference follows => cases follows
  | noParts =>
      refine ⟨_, fun below call => ?_⟩
      cases call with
      | reference follows => cases follows
  | failedPart nodes collected inductionHypothesis =>
      refine ⟨_, fun below call => ?_⟩
      cases call with
      | part => exact inductionHypothesis
      | parts _ succeeded => cases collected.unique succeeded
      | reference follows => cases follows
  | parts collected collectedRest firstHypothesis restHypothesis =>
      refine ⟨_, fun below call => ?_⟩
      cases call with
      | part => exact firstHypothesis
      | parts => exact restHypothesis
      | reference follows => cases follows
  | missingArgument =>
      refine ⟨_, fun below call => ?_⟩
      cases call with
      | reference follows =>
          cases follows with
          | declared _ other => exact absurd rfl other
  | readonly rest collected inductionHypothesis =>
      refine ⟨_, fun below call => ?_⟩
      cases call with
      | reference follows =>
          cases follows.eq_of_readonly
          exact inductionHypothesis
  | undeclared arguments other absent =>
      refine ⟨_, fun below call => ?_⟩
      cases call with
      | reference follows =>
          obtain ⟨definition, found, _⟩ := follows.exists_of_other other
          cases absent.symm.trans found
  | declared arguments other found collected inductionHypothesis =>
      refine ⟨_, fun below call => ?_⟩
      cases call with
      | reference follows =>
          obtain ⟨definition, found', same⟩ := follows.exists_of_other other
          cases found.symm.trans found'
          rw [same]
          exact inductionHypothesis
  | notSource noSource =>
      refine ⟨_, fun below call => ?_⟩
      cases call with
      | reference follows => cases follows <;> cases noSource
      | _ => cases noSource

/-- A cycle goes on with a node that lies on it too. -/
theorem exists_below_of_cycle {step : TypeExpr → TypeExpr → Prop} {node : TypeExpr}
    (cycle : Relation.TransGen step node node) :
    ∃ below, step node below ∧ Relation.TransGen step below below := by
  obtain ⟨below, first, back⟩ := Relation.TransGen.head'_iff.mp cycle
  exact ⟨below, first, Relation.TransGen.tail' back first⟩

/-- A walk that comes back to a node does not end there. -/
theorem not_ends_of_cycle {node : TypeExpr}
    (cycle : Relation.TransGen (Calls declarations) node node) : ¬Ends declarations node := by
  intro ends
  induction ends with
  | intro node _ inductionHypothesis =>
      obtain ⟨below, call, back⟩ := exists_below_of_cycle cycle
      exact inductionHypothesis below call back

/-- No step leads from the heritage of a closed table to an inline interface. -/
theorem covers_of_calls (closed : declarations.Closed) {node below : TypeExpr}
    (covered : declarations.Covers node) (call : Calls declarations node below) :
    declarations.Covers below := by
  intro other leads
  cases call with
  | heritage name own heritage =>
      cases leads with
      | here => trivial
      | part member leads => exact covered other (.heritage member leads)
  | part node nodes => exact covered other (.part List.mem_cons_self leads)
  | parts nodes collected =>
      cases leads with
      | here => trivial
      | part member leads => exact covered other (.part (List.mem_cons_of_mem _ member) leads)
  | reference follows =>
      cases follows with
      | readonly => exact covered other (.readonly leads)
      | declared _ _ found => exact closed.covers found other leads

/-- No step leads from a node without handlers to one. -/
theorem plain_of_follows (closed : declarations.Closed) {node below : TypeExpr}
    (plain : node.Plain) (follows : Follows declarations node below) : below.Plain := by
  cases follows with
  | readonly => exact fun name arguments leads => plain name arguments (.readonly leads)
  | declared _ _ found => exact closed.plain found

end Heritage

namespace Payload

/-- The walk for a payload has no outcome where references lead back to themselves. -/
theorem Resolves.not_cycle {declarations : Declarations} (closed : declarations.Closed)
    {dispatch : Option Dispatch} {legacy : Option String} {node : TypeExpr}
    {outcome : Except ExtractionError Resolution}
    (resolved : Resolves declarations dispatch legacy node outcome) (plain : node.Plain) :
    ¬Relation.TransGen (Heritage.Follows declarations) node node := by
  intro cycle
  induction resolved with
  | readonly rest resolved inductionHypothesis =>
      obtain ⟨below, follows, back⟩ := Heritage.exists_below_of_cycle cycle
      have plainBelow := Heritage.plain_of_follows closed plain follows
      cases follows.eq_of_readonly
      exact inductionHypothesis plainBelow back
  | declared arguments other noHandler found resolved inductionHypothesis =>
      obtain ⟨below, follows, back⟩ := Heritage.exists_below_of_cycle cycle
      have plainBelow := Heritage.plain_of_follows closed plain follows
      obtain ⟨definition, found', same⟩ := follows.exists_of_other other
      cases found.symm.trans found'
      subst same
      exact inductionHypothesis plainBelow back
  | undeclared _ _ _ other _ absent =>
      obtain ⟨below, follows, _⟩ := Heritage.exists_below_of_cycle cycle
      obtain ⟨definition, found, _⟩ := follows.exists_of_other other
      cases absent.symm.trans found
  | missingArgument =>
      obtain ⟨below, follows, _⟩ := Heritage.exists_below_of_cycle cycle
      cases follows with
      | declared _ other => exact absurd rfl other
  | noPayload | legacyRefused | nullish | payload =>
      cases plain.noHandler.symm.trans (Dispatch.ofWrapperName?_wrapperName _)
  | interfaceDecl | object =>
      obtain ⟨below, follows, _⟩ := Heritage.exists_below_of_cycle cycle
      cases follows
  | notSource _ _ noSource =>
      obtain ⟨below, follows, _⟩ := Heritage.exists_below_of_cycle cycle
      cases follows <;> cases noSource

end Payload
end ComponentEvents
