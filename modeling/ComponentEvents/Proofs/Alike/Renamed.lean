/-
This file shows that an extraction does not depend on how the declared types are called.
-/

import ComponentEvents.Proofs.Alike.Events
import ComponentEvents.Proofs.Extraction.Batch
import ComponentEvents.TypeExpr.Build
import Mathlib.Logic.Equiv.Basic

namespace ComponentEvents

mutual

/-- This function renames every reference and every declaration in the type. -/
def TypeExpr.renamed (rename : Renaming) : TypeExpr → TypeExpr
  | .keyword word => .keyword word
  | .literal value => .literal value
  | .reference name arguments => .reference (rename name) (TypeExpr.renamedAll rename arguments)
  | .union arms => .union (TypeExpr.renamedAll rename arms)
  | .intersection parts => .intersection (TypeExpr.renamedAll rename parts)
  | .parenthesized inner => .parenthesized (inner.renamed rename)
  | .object members => .object (Member.renamedAll rename members)
  | .interfaceDecl name members heritage =>
      .interfaceDecl (rename name) (Member.renamedAll rename members)
        (TypeExpr.renamedAll rename heritage)
  | .aliasDecl name definition => .aliasDecl (rename name) (definition.renamed rename)

def TypeExpr.renamedAll (rename : Renaming) : List TypeExpr → List TypeExpr
  | [] => []
  | node :: nodes => node.renamed rename :: TypeExpr.renamedAll rename nodes

/-- Keys of members are no names of types. -/
def Member.renamed (rename : Renaming) : Member → Member
  | .property key type optional => .property key (type.renamed rename) optional
  | .method key => .method key
  | .index keyType valueType => .index (keyType.renamed rename) (valueType.renamed rename)
  | .call result => .call (result.renamed rename)
  | .spread argument => .spread (argument.renamed rename)

def Member.renamedAll (rename : Renaming) : List Member → List Member
  | [] => []
  | member :: members => member.renamed rename :: Member.renamedAll rename members

end

/-- Every declaration is found under the new name and renamed itself. -/
def Declarations.renamed (rename : Renaming) (declarations : Declarations) : Declarations :=
  ⟨declarations.entries.map fun entry => (rename entry.1, entry.2.renamed rename)⟩

section Alike

variable (rename : Renaming)

mutual

theorem TypeExpr.alike_renamed : ∀ node : TypeExpr, node.Alike rename (node.renamed rename)
  | .keyword word => .keyword word
  | .literal value => .literal value
  | .reference name arguments => .reference name (TypeExpr.alike_renamedAll arguments)
  | .union arms => .union_of_arms (TypeExpr.alike_renamedAll arms)
  | .intersection parts => .intersection (TypeExpr.alike_renamedAll parts)
  | .parenthesized inner => .parenthesized inner.alike_renamed
  | .object members => .object (Member.alike_renamedAll members)
  | .interfaceDecl name members heritage =>
      .interfaceDecl name (Member.alike_renamedAll members) (TypeExpr.alike_renamedAll heritage)
  | .aliasDecl name definition => .aliasDecl name definition.alike_renamed

theorem TypeExpr.alike_renamedAll :
    ∀ nodes, List.Forall₂ (TypeExpr.Alike rename) nodes (TypeExpr.renamedAll rename nodes)
  | [] => .nil
  | node :: nodes => .cons node.alike_renamed (TypeExpr.alike_renamedAll nodes)

theorem Member.alike_renamed : ∀ member : Member, member.Alike rename (member.renamed rename)
  | .property key type optional => .property key optional type.alike_renamed
  | .method key => .method key
  | .index keyType valueType => .index keyType.alike_renamed valueType.alike_renamed
  | .call result => .call result.alike_renamed
  | .spread argument => .spread argument.alike_renamed

theorem Member.alike_renamedAll :
    ∀ members, List.Forall₂ (Member.Alike rename) members (Member.renamedAll rename members)
  | [] => .nil
  | member :: members => .cons member.alike_renamed (Member.alike_renamedAll members)

end

theorem Declarations.find?_renamed (declarations : Declarations) (name : String) :
    (declarations.renamed rename).find? (rename name) =
      (declarations.find? name).map (·.renamed rename) := by
  obtain ⟨entries⟩ := declarations
  induction entries with
  | nil => rfl
  | cons entry entries inductionHypothesis =>
      obtain ⟨other, definition⟩ := entry
      have same : (rename name == rename other) = (name == other) := by
        rw [Bool.eq_iff_iff, beq_iff_eq, beq_iff_eq, rename.apply_eq_iff]
      simp only [find?, renamed, List.map_cons, List.lookup_cons, same] at inductionHypothesis ⊢
      cases name == other with
      | true => rfl
      | false => exact inductionHypothesis

theorem Declarations.alike_renamed (declarations : Declarations) :
    declarations.Alike rename (declarations.renamed rename) := by
  intro name
  rw [find?_renamed]
  cases declarations.find? name with
  | none => exact .none
  | some definition => exact .some (definition.alike_renamed rename)

end Alike

/-- This renaming exchanges two names. -/
def Renaming.swap (first second : String) (free : first ∉ TypeExpr.reservedNames)
    (free' : second ∉ TypeExpr.reservedNames) : Renaming where
  apply := Equiv.swap first second
  injective := (Equiv.swap first second).injective
  reserved _ reserved :=
    Equiv.swap_apply_of_ne_of_ne (ne_of_mem_of_not_mem reserved free)
      (ne_of_mem_of_not_mem reserved free')

namespace Extraction

/-- Members have the same events when all types are renamed, or both extractions fail alike. -/
theorem events_renamed (rename : Renaming) (config : Config) (declarations : Declarations)
    (members : List Member) :
    (∃ found, (events config declarations members).run.value = .ok found ∧
      (events config (declarations.renamed rename) (Member.renamedAll rename members)).run.value =
        .ok found) ∨
    ∃ error error', (events config declarations members).run.value = .error error ∧
      (events config (declarations.renamed rename) (Member.renamedAll rename members)).run.value =
        .error error' ∧
      error'.event = error.event ∧ error.cause.Alike rename error'.cause := by
  have alike := events_alike config (declarations.alike_renamed rename)
    (Member.alike_renamedAll rename members)
  obtain ⟨found, outcome, outcome'⟩ | ⟨error, error', failed, failed', same⟩ :=
    alike.same_or_failed
  · exact Or.inl ⟨found, outcome, outcome'⟩
  · exact Or.inr ⟨error, error', failed, failed', same.event, same.cause⟩

/-- `Row` names itself, and the cycle is found again when `Row` is called `Item`. -/
theorem events_renamed_cycle :
    let rename := Renaming.swap "Row" "Item" (by decide) (by decide)
    let members : List Member :=
      [.property "onSelect" (.handler .direct (.named "Row") none) false]
    let declarations : Declarations := ⟨[("Row", .named "Row")]⟩
    (events .standard declarations members).run.value =
        .error ⟨.loop .cyclic ["Row", "Row"], some "onSelect"⟩ ∧
      (events .standard (declarations.renamed rename)
          (Member.renamedAll rename members)).run.value =
        .error ⟨.loop .cyclic ["Item", "Item"], some "onSelect"⟩ := by
  intro rename members declarations
  have refused : (Payload.resolve .standard declarations [] none none
      (Handler.reference ⟨.direct, [.named "Row"], false⟩)).run.value =
        .error (.ofCause (.loop .cyclic ["Row", "Row"])) := by
    have row : declarations.find? "Row" = some (.named "Row") := rfl
    have admitted : Config.standard.Admits [] "Row" := by decide
    have again : ¬Config.standard.Admits ["Row"] "Row" := by decide
    rw [Handler.reference, Payload.resolve_payload none none rfl rfl, TypeExpr.named,
      Payload.resolve_admitted _ _ [] (by decide) rfl row admitted]
    exact congrArg Logged.value (Payload.resolve_refused _ _ [] (by decide) rfl row again)
  have failed : (events .standard declarations members).run.value =
      .error ⟨.loop .cyclic ["Row", "Row"], some "onSelect"⟩ := by
    have found : Handler.ofMember .standard
        (.property "onSelect" (.handler .direct (.named "Row") none) false) =
          some ("onSelect", ⟨.direct, [.named "Row"], false⟩) := rfl
    rw [value_events_handler found, value_handlerEvent, refused]
    rfl
  refine ⟨failed, ?_⟩
  obtain ⟨found, succeeded, -⟩ | ⟨error, ⟨cause', event'⟩, outcome, outcome', same, alike⟩ :=
    events_renamed rename .standard declarations members
  · cases failed.symm.trans succeeded
  · cases failed.symm.trans outcome
    rw [outcome']
    cases same
    cases alike
    have called : rename "Row" = "Item" := Equiv.swap_apply_left "Row" "Item"
    simp only [List.map_cons, List.map_nil, called]

end Extraction
end ComponentEvents
