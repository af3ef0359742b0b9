/-
This file spells out the steps that take a thing without asking whether it is there.
-/

import ComponentEvents.Extraction.Basic
import ComponentEvents.Declarations
import ComponentEvents.Schema.Basic

namespace ComponentEvents

/-- A step may take one of these things where it is missing. -/
inductive Gap where
  | argument (index : Nat)
  | definition (name : String)
  | arm
  | option
  deriving DecidableEq, Repr

/-- Such a computation breaks off at the first gap, and a gap is no failure of an extraction. -/
abbrev Unchecked := ExceptT Gap Extraction

namespace Unchecked

def fail {α : Type} (cause : Cause) : Unchecked α :=
  monadLift (Extraction.fail cause : Extraction α)

/-- The argument is taken together with the fact that it is one. -/
def argument (arguments : List TypeExpr) (index : Nat) :
    Unchecked {argument : TypeExpr // argument ∈ arguments} :=
  if inside : index < arguments.length then
    pure ⟨arguments[index], List.getElem_mem inside⟩
  else throw (.argument index)

def firstArm (arms : List TypeExpr) : Unchecked {arm : TypeExpr // arm ∈ arms} :=
  match arms with
  | [] => throw .arm
  | first :: _ => pure ⟨first, List.mem_cons_self⟩

def definition (declarations : Declarations) (name : String) : Unchecked TypeExpr :=
  match declarations.find? name with
  | none => throw (.definition name)
  | some definition => pure definition

/-- An enumeration is made of its options, of which there has to be one. -/
def enumeration (options : List String) : Unchecked (Shape String Bool) :=
  match options with
  | [] => throw .option
  | first :: rest => pure (.stringEnum first rest)

/-- Only a failure of the extraction is a failure of the event. -/
def inEvent {α : Type} (event : String) (computation : Unchecked α) : Unchecked α :=
  ExceptT.mk (Extraction.inEvent event computation.run)

section Present

@[simp] theorem argument_first (first : TypeExpr) (rest : List TypeExpr) :
    argument (first :: rest) 0 = pure ⟨first, List.mem_cons_self⟩ := rfl

@[simp] theorem argument_second (first second : TypeExpr) (rest : List TypeExpr) :
    argument (first :: second :: rest) 1 =
      pure ⟨second, List.mem_cons_of_mem _ List.mem_cons_self⟩ := rfl

theorem firstArm_cons (first : TypeExpr) (rest : List TypeExpr) :
    firstArm (first :: rest) = pure ⟨first, List.mem_cons_self⟩ := rfl

theorem definition_found {declarations : Declarations} {name : String} {found : TypeExpr}
    (declared : declarations.find? name = some found) :
    definition declarations name = pure found := by
  rw [definition, declared]

theorem enumeration_cons (first : String) (rest : List String) :
    enumeration (first :: rest) = pure (.stringEnum first rest) := rfl

/-- Where there are no gaps, failures become failures of the event as they do anywhere. -/
theorem inEvent_monadLift {α : Type} (event : String) (extraction : Extraction α) :
    inEvent event (monadLift extraction) = monadLift (Extraction.inEvent event extraction) := by
  change Extraction.inEvent event (Except.ok <$> extraction) =
    Except.ok <$> Extraction.inEvent event extraction
  exact Extraction.inEvent_map event Except.ok extraction

end Present

end Unchecked
end ComponentEvents
