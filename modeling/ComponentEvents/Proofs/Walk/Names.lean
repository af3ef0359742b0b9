/-
This file compares the names that a walk looks up with the names that stand anywhere in a type.
-/

import ComponentEvents.Proofs.Walk.Agreement

namespace ComponentEvents

mutual

/-- These are the names of all references in the type, those inside its members included. -/
def TypeExpr.references : TypeExpr → List String
  | .keyword _ | .literal _ => []
  | .reference name arguments => name :: TypeExpr.referencesOfAll arguments
  | .union arms => TypeExpr.referencesOfAll arms
  | .intersection parts => TypeExpr.referencesOfAll parts
  | .parenthesized inner => inner.references
  | .object members => Member.referencesOfAll members
  | .interfaceDecl _ members heritage =>
      Member.referencesOfAll members ++ TypeExpr.referencesOfAll heritage
  | .aliasDecl _ definition => definition.references

def TypeExpr.referencesOfAll : List TypeExpr → List String
  | [] => []
  | node :: nodes => node.references ++ TypeExpr.referencesOfAll nodes

def Member.references : Member → List String
  | .property _ type _ => type.references
  | .method _ => []
  | .index keyType valueType => keyType.references ++ valueType.references
  | .call result => result.references
  | .spread argument => argument.references

def Member.referencesOfAll : List Member → List String
  | [] => []
  | member :: members => member.references ++ Member.referencesOfAll members

end

namespace TypeExpr

theorem references_subset_of_mem {node : TypeExpr} {nodes : List TypeExpr} (member : node ∈ nodes) :
    node.references ⊆ referencesOfAll nodes := by
  induction nodes with
  | nil => cases member
  | cons first rest inductionHypothesis =>
      rw [referencesOfAll]
      obtain rfl | member := List.mem_cons.mp member
      · exact List.subset_append_left ..
      · exact List.subset_append_of_subset_right _ (inductionHypothesis member)

/-- A walk goes to a part of the type. -/
theorem Leads.references_subset {node other : TypeExpr} (leads : node.Leads other) :
    other.references ⊆ node.references := by
  induction leads with
  | here => exact List.Subset.refl _
  | readonly _ inductionHypothesis | handler _ _ inductionHypothesis =>
      rw [references, referencesOfAll]
      exact List.subset_cons_of_subset _
        (List.subset_append_of_subset_left _ inductionHypothesis)
  | part member _ inductionHypothesis =>
      rw [references]
      exact List.Subset.trans inductionHypothesis (references_subset_of_mem member)
  | heritage member _ inductionHypothesis =>
      rw [references]
      exact List.subset_append_of_subset_right _
        (List.Subset.trans inductionHypothesis (references_subset_of_mem member))

theorem references_unaliased (node : TypeExpr) : node.unaliased.references = node.references := by
  cases node with
  | aliasDecl name definition => rw [unaliased, references]
  | _ => rfl

/-- A walk looks up only names that stand somewhere in the type. -/
theorem within_of_references {known : String → Prop} {node : TypeExpr}
    (each : ∀ name ∈ node.references, name = readonlyName ∨ known name) : node.Within known := by
  intro name arguments leads
  apply each name
  apply leads.references_subset
  rw [references]
  exact List.mem_cons_self

end TypeExpr
end ComponentEvents
