/-
This file collects the members that a declaration has and inherits.
-/

import ComponentEvents.Chain
import ComponentEvents.Declarations

namespace ComponentEvents.Heritage

def blocked {α : Type} (obstacle : Obstacle) : Except ExtractionError α :=
  .error (.ofCause (.obstacle obstacle))

mutual

/-- Inherited members stand before own ones. A name is looked up, and the parts of an intersection
follow each other. -/
def members (config : Config) (declarations : Declarations) (chain : Chain) :
    TypeExpr → Except ExtractionError (List Member)
  | .object own => .ok own
  | .interfaceDecl name own heritage => do
      let inherited ← membersOfAll config declarations (chain.mention name) heritage
      return inherited ++ own
  | .intersection parts => membersOfAll config declarations chain parts
  | .reference name arguments =>
      if name = TypeExpr.readonlyName then
        match arguments with
        | [] => blocked (.missingArgument name)
        | first :: _ => members config declarations chain first
      else
        match declarations.find? name with
        | none => blocked (.undeclared name)
        | some definition =>
            if _admitted : config.Admits chain name then
              members config declarations (chain.enter name) definition.unaliased
            else .error (chain.refusal config name)
  | node => blocked (.notFlattenable node.nodeKind)
termination_by node => (config.aliasLimit - chain.length, sizeOf node)
decreasing_by
  · apply Prod.Lex.right'
    · have longer := Chain.length_le_mention chain name
      omega
    · simp only [TypeExpr.interfaceDecl.sizeOf_spec]
      omega
  · exact Prod.Lex.right _ (by simp only [TypeExpr.intersection.sizeOf_spec]; omega)
  · apply Prod.Lex.right
    simp only [TypeExpr.reference.sizeOf_spec, List.cons.sizeOf_spec]
    omega
  · exact Prod.Lex.left _ _ (Chain.remaining_enter _admitted)

def membersOfAll (config : Config) (declarations : Declarations) (chain : Chain) :
    List TypeExpr → Except ExtractionError (List Member)
  | [] => .ok []
  | node :: nodes => do
      let first ← members config declarations chain node
      let rest ← membersOfAll config declarations chain nodes
      return first ++ rest
termination_by nodes => (config.aliasLimit - chain.length, sizeOf nodes)
decreasing_by
  · exact Prod.Lex.right _ (by simp only [List.cons.sizeOf_spec]; omega)
  · exact Prod.Lex.right _ (by simp only [List.cons.sizeOf_spec]; omega)

end

end ComponentEvents.Heritage
