/-
This file says when types are alike but for their names and their nullish arms.
-/

import ComponentEvents.Declarations
import ComponentEvents.Dispatch
import ComponentEvents.Schema.Basic
import Mathlib.Data.List.Forall2

namespace ComponentEvents

/-- These names have a meaning of their own. An interface without a name has the empty one. -/
def TypeExpr.reservedNames : List String :=
  ["", readonlyName, Dispatch.bubble.wrapperName, Dispatch.direct.wrapperName, "Int32", "Double",
    "Float"]

/-- A renaming keeps names apart and leaves the reserved ones alone. -/
structure Renaming where
  apply : String → String
  injective : Function.Injective apply
  reserved : ∀ name ∈ TypeExpr.reservedNames, apply name = name

namespace Renaming

instance : CoeFun Renaming fun _ => String → String := ⟨apply⟩

/-- This renaming changes nothing. -/
def identity : Renaming where
  apply := id
  injective := Function.injective_id
  reserved _ _ := rfl

variable (rename : Renaming)

theorem apply_eq_iff {name other : String} : rename name = rename other ↔ name = other :=
  rename.injective.eq_iff

/-- No other name becomes a reserved one. -/
theorem apply_eq_reserved_iff (name other : String) (reserved : other ∈ TypeExpr.reservedNames) :
    rename name = other ↔ name = other := by
  have kept : rename other = other := rename.reserved other reserved
  constructor
  · intro same
    exact rename.injective (same.trans kept.symm)
  · intro same
    rw [same, kept]

@[simp] theorem apply_eq_empty_iff {name : String} : rename name = "" ↔ name = "" :=
  rename.apply_eq_reserved_iff _ _ (by decide)

@[simp] theorem apply_eq_readonlyName_iff {name : String} :
    rename name = TypeExpr.readonlyName ↔ name = TypeExpr.readonlyName :=
  rename.apply_eq_reserved_iff _ _ (by decide)

@[simp] theorem apply_readonlyName : rename TypeExpr.readonlyName = TypeExpr.readonlyName :=
  rename.reserved _ (by decide)

@[simp] theorem apply_wrapperName (dispatch : Dispatch) :
    rename dispatch.wrapperName = dispatch.wrapperName := by
  cases dispatch <;> exact rename.reserved _ (by decide)

@[simp] theorem ofWrapperName?_apply (name : String) :
    Dispatch.ofWrapperName? (rename name) = Dispatch.ofWrapperName? name := by
  have bubble := rename.apply_eq_reserved_iff name Dispatch.bubble.wrapperName (by decide)
  have direct := rename.apply_eq_reserved_iff name Dispatch.direct.wrapperName (by decide)
  simp only [Dispatch.ofWrapperName?, bubble, direct]

@[simp] theorem ofTypeName?_apply (name : String) :
    Scalar.ofTypeName? (rename name) = Scalar.ofTypeName? name := by
  have int32 := rename.apply_eq_reserved_iff name "Int32" (by decide)
  have double := rename.apply_eq_reserved_iff name "Double" (by decide)
  have float := rename.apply_eq_reserved_iff name "Float" (by decide)
  simp only [Scalar.ofTypeName?, int32, double, float]

end Renaming

mutual

/-- The second type is the first one under other names. Of the nullish arms of a union it only
counts whether there are any. -/
inductive TypeExpr.Alike (rename : Renaming) : TypeExpr → TypeExpr → Prop
  | keyword (word : Keyword) : TypeExpr.Alike rename (.keyword word) (.keyword word)
  | literal (value : Literal) : TypeExpr.Alike rename (.literal value) (.literal value)
  | reference (name : String) {arguments arguments' : List TypeExpr}
      (alike : List.Forall₂ (TypeExpr.Alike rename) arguments arguments') :
      TypeExpr.Alike rename (.reference name arguments) (.reference (rename name) arguments')
  | union {arms arms' : List TypeExpr}
      (nullish : TypeExpr.hasNullish arms' = TypeExpr.hasNullish arms)
      (alike : List.Forall₂ (TypeExpr.Alike rename) (TypeExpr.otherArms arms)
        (TypeExpr.otherArms arms')) :
      TypeExpr.Alike rename (.union arms) (.union arms')
  | intersection {parts parts' : List TypeExpr}
      (alike : List.Forall₂ (TypeExpr.Alike rename) parts parts') :
      TypeExpr.Alike rename (.intersection parts) (.intersection parts')
  | parenthesized {inner inner' : TypeExpr} (alike : TypeExpr.Alike rename inner inner') :
      TypeExpr.Alike rename (.parenthesized inner) (.parenthesized inner')
  | object {members members' : List Member}
      (alike : List.Forall₂ (Member.Alike rename) members members') :
      TypeExpr.Alike rename (.object members) (.object members')
  | interfaceDecl (name : String) {members members' : List Member}
      {heritage heritage' : List TypeExpr}
      (alike : List.Forall₂ (Member.Alike rename) members members')
      (alikeHeritage : List.Forall₂ (TypeExpr.Alike rename) heritage heritage') :
      TypeExpr.Alike rename (.interfaceDecl name members heritage)
        (.interfaceDecl (rename name) members' heritage')
  | aliasDecl (name : String) {definition definition' : TypeExpr}
      (alike : TypeExpr.Alike rename definition definition') :
      TypeExpr.Alike rename (.aliasDecl name definition) (.aliasDecl (rename name) definition')

/-- Keys and flags of members are kept. -/
inductive Member.Alike (rename : Renaming) : Member → Member → Prop
  | property (key : String) {type type' : TypeExpr} (optional : Bool)
      (alike : TypeExpr.Alike rename type type') :
      Member.Alike rename (.property key type optional) (.property key type' optional)
  | method (key : String) : Member.Alike rename (.method key) (.method key)
  | index {keyType keyType' valueType valueType' : TypeExpr}
      (alikeKey : TypeExpr.Alike rename keyType keyType')
      (alike : TypeExpr.Alike rename valueType valueType') :
      Member.Alike rename (.index keyType valueType) (.index keyType' valueType')
  | call {result result' : TypeExpr} (alike : TypeExpr.Alike rename result result') :
      Member.Alike rename (.call result) (.call result')
  | spread {argument argument' : TypeExpr} (alike : TypeExpr.Alike rename argument argument') :
      Member.Alike rename (.spread argument) (.spread argument')

end

namespace TypeExpr.Alike

variable {rename : Renaming} {node node' : TypeExpr}

theorem nodeKind (alike : node.Alike rename node') : node'.nodeKind = node.nodeKind := by
  cases alike <;> rfl

theorem isNullish (alike : node.Alike rename node') : node'.isNullish = node.isNullish := by
  cases alike <;> rfl

theorem stringLiteral? (alike : node.Alike rename node') :
    node'.stringLiteral? = node.stringLiteral? := by
  cases alike <;> rfl

theorem unaliased (alike : node.Alike rename node') :
    node.unaliased.Alike rename node'.unaliased := by
  have kept := alike
  cases alike with
  | aliasDecl name alike => exact alike
  | _ => exact kept

/-- Unions are alike where all their arms are. -/
theorem union_of_arms {arms arms' : List TypeExpr}
    (alike : List.Forall₂ (TypeExpr.Alike rename) arms arms') :
    (TypeExpr.union arms).Alike rename (.union arms') := by
  have split : hasNullish arms' = hasNullish arms ∧
      List.Forall₂ (TypeExpr.Alike rename) (otherArms arms) (otherArms arms') := by
    induction alike with
    | nil => exact ⟨rfl, .nil⟩
    | @cons arm arm' arms arms' first _ inductionHypothesis =>
        obtain ⟨nullish, others⟩ := inductionHypothesis
        cases missing : arm.isNullish with
        | true =>
            have missing' := first.isNullish.trans missing
            rw [otherArms_cons_nullish arms missing, otherArms_cons_nullish arms' missing']
            exact ⟨by simp [hasNullish, missing, missing'], others⟩
        | false =>
            have missing' := first.isNullish.trans missing
            rw [otherArms_cons_other arms missing, otherArms_cons_other arms' missing']
            refine ⟨?_, .cons first others⟩
            simpa [hasNullish, missing, missing'] using nullish
  exact .union split.1 split.2

end TypeExpr.Alike

/-- Tables are alike when they declare the same names, renamed, and alike types under them. -/
def Declarations.Alike (rename : Renaming) (declarations declarations' : Declarations) : Prop :=
  ∀ name, Option.Rel (TypeExpr.Alike rename) (declarations.find? name)
    (declarations'.find? (rename name))

end ComponentEvents
