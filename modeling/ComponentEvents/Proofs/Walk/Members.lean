/-
This file states the walk for inherited members case by case.
-/

import ComponentEvents.Heritage

namespace ComponentEvents.Heritage

/-- Only these nodes are looked into for members. -/
def isSource : TypeExpr → Bool
  | .object _ => true
  | .interfaceDecl _ _ _ => true
  | .intersection _ => true
  | .reference _ _ => true
  | _ => false

section Equations

variable (config : Config) (declarations : Declarations) (chain : Chain)

@[simp] theorem members_object (own : List Member) :
    members config declarations chain (.object own) = .ok own := by
  rw [members]

/-- The heritage of an interface is walked like the parts of an intersection. -/
theorem members_interfaceDecl (name : String) (own : List Member) (heritage : List TypeExpr) :
    members config declarations chain (.interfaceDecl name own heritage) =
      (members config declarations (chain.mention name) (.intersection heritage)).map
        (· ++ own) := by
  rw [members, members]
  cases membersOfAll config declarations (chain.mention name) heritage <;> rfl

@[simp] theorem members_noParts :
    members config declarations chain (.intersection []) = .ok [] := by
  rw [members, membersOfAll]

/-- An interface that extends nothing has its own members. -/
theorem members_noHeritage (name : String) (own : List Member) :
    members config declarations chain (.interfaceDecl name own []) = .ok own := by
  rw [members_interfaceDecl, members_noParts]
  rfl

@[simp] theorem members_missingArgument :
    members config declarations chain (.reference TypeExpr.readonlyName []) =
      blocked (.missingArgument TypeExpr.readonlyName) := by
  rw [members, if_pos rfl]

@[simp] theorem members_readonly (first : TypeExpr) (rest : List TypeExpr) :
    members config declarations chain (.reference TypeExpr.readonlyName (first :: rest)) =
      members config declarations chain first := by
  rw [members, if_pos rfl]

variable {config declarations chain} {name : String} {definition node : TypeExpr}

/-- The parts after a failed one are not walked. -/
theorem members_failedPart {error : ExtractionError} (nodes : List TypeExpr)
    (failed : members config declarations chain node = .error error) :
    members config declarations chain (.intersection (node :: nodes)) = .error error := by
  rw [members, membersOfAll, failed]
  rfl

theorem members_parts {first : List Member} (nodes : List TypeExpr)
    (collected : members config declarations chain node = .ok first) :
    members config declarations chain (.intersection (node :: nodes)) =
      (members config declarations chain (.intersection nodes)).map (first ++ ·) := by
  rw [members, membersOfAll, collected, members]
  cases membersOfAll config declarations chain nodes <;> rfl

variable (arguments : List TypeExpr)

theorem members_undeclared (other : name ≠ TypeExpr.readonlyName)
    (absent : declarations.find? name = none) :
    members config declarations chain (.reference name arguments) = blocked (.undeclared name) := by
  cases arguments <;> rw [members, if_neg other, absent]

theorem members_admitted (other : name ≠ TypeExpr.readonlyName)
    (found : declarations.find? name = some definition) (admitted : config.Admits chain name) :
    members config declarations chain (.reference name arguments) =
      members config declarations (chain.enter name) definition.unaliased := by
  cases arguments <;> rw [members, if_neg other, found] <;> exact dif_pos admitted

theorem members_refused (other : name ≠ TypeExpr.readonlyName)
    (found : declarations.find? name = some definition) (refused : ¬config.Admits chain name) :
    members config declarations chain (.reference name arguments) =
      .error (chain.refusal config name) := by
  cases arguments <;> rw [members, if_neg other, found] <;> exact dif_neg refused

theorem members_notSource (noSource : isSource node = false) :
    members config declarations chain node = blocked (.notFlattenable node.nodeKind) := by
  cases node with
  | object | interfaceDecl | intersection | reference => cases noSource
  | _ => simp [members]

end Equations

/-- A property of every call of the walk follows from what each call makes of those below it. -/
theorem members_induction (config : Config) (declarations : Declarations)
    {motive : Chain → TypeExpr → Prop}
    (object : ∀ chain own, motive chain (.object own))
    (interfaceDecl : ∀ chain name own heritage,
      motive (chain.mention name) (.intersection heritage) →
        motive chain (.interfaceDecl name own heritage))
    (noParts : ∀ chain, motive chain (.intersection []))
    (parts : ∀ chain node nodes, motive chain node → motive chain (.intersection nodes) →
      motive chain (.intersection (node :: nodes)))
    (missingArgument : ∀ chain, motive chain (.reference TypeExpr.readonlyName []))
    (readonly : ∀ chain first rest, motive chain first →
      motive chain (.reference TypeExpr.readonlyName (first :: rest)))
    (undeclared : ∀ chain name arguments, name ≠ TypeExpr.readonlyName →
      declarations.find? name = none → motive chain (.reference name arguments))
    (admitted : ∀ chain name arguments definition, name ≠ TypeExpr.readonlyName →
      declarations.find? name = some definition → config.Admits chain name →
        motive (chain.enter name) definition.unaliased → motive chain (.reference name arguments))
    (refused : ∀ chain name arguments definition, name ≠ TypeExpr.readonlyName →
      declarations.find? name = some definition → ¬config.Admits chain name →
        motive chain (.reference name arguments))
    (notSource : ∀ chain node, isSource node = false → motive chain node)
    (chain : Chain) (node : TypeExpr) : motive chain node := by
  apply members.induct config declarations motive
    (fun chain nodes => motive chain (.intersection nodes))
  · exact object
  · exact interfaceDecl
  · intro chain parts inductionHypothesis
    exact inductionHypothesis
  · exact missingArgument
  · exact readonly
  · exact undeclared
  · intro chain name arguments other definition
    exact admitted chain name arguments definition other
  · intro chain name arguments other definition
    exact refused chain name arguments definition other
  · intro chain node noObject noInterface noIntersection noReference
    apply notSource
    cases node with
    | object own => exact (noObject own rfl).elim
    | interfaceDecl name own heritage => exact (noInterface name own heritage rfl).elim
    | intersection parts => exact (noIntersection parts rfl).elim
    | reference name arguments => exact (noReference name arguments rfl).elim
    | _ => rfl
  · exact noParts
  · exact parts

end ComponentEvents.Heritage
