/-
This file says where a walk looks and what a closed table puts there.
-/

import Mathlib.Data.List.Dedup
import ComponentEvents.Declarations
import ComponentEvents.Dispatch

namespace ComponentEvents

namespace TypeExpr

/-- A walk comes from the first node to the second without a look-up. Only the first argument of a
wrapper is looked into. -/
inductive Leads : TypeExpr → TypeExpr → Prop
  | here (node : TypeExpr) : Leads node node
  | readonly {first node : TypeExpr} {rest : List TypeExpr} :
      Leads first node → Leads (.reference readonlyName (first :: rest)) node
  | handler {first node : TypeExpr} {rest : List TypeExpr} (dispatch : Dispatch) :
      Leads first node → Leads (.reference dispatch.wrapperName (first :: rest)) node
  | part {part node : TypeExpr} {parts : List TypeExpr} :
      part ∈ parts → Leads part node → Leads (.intersection parts) node
  | heritage {name : String} {own : List Member} {entry node : TypeExpr}
      {heritage : List TypeExpr} :
      entry ∈ heritage → Leads entry node → Leads (.interfaceDecl name own heritage) node

section Leads

variable {name : String} {arguments rest parts heritage : List TypeExpr} {own : List Member}
  {first other : TypeExpr}

@[simp] theorem leads_object_iff : (TypeExpr.object own).Leads other ↔ other = .object own := by
  constructor
  · intro leads
    cases leads
    rfl
  · intro same
    subst same
    exact .here _

@[simp] theorem leads_intersection_iff :
    (TypeExpr.intersection parts).Leads other ↔
      other = .intersection parts ∨ ∃ part ∈ parts, part.Leads other := by
  constructor
  · intro leads
    cases leads with
    | here => exact Or.inl rfl
    | part member leads => exact Or.inr ⟨_, member, leads⟩
  · intro given
    rcases given with rfl | ⟨part, member, leads⟩
    · exact .here _
    · exact .part member leads

@[simp] theorem leads_interfaceDecl_iff :
    (TypeExpr.interfaceDecl name own heritage).Leads other ↔
      other = .interfaceDecl name own heritage ∨ ∃ entry ∈ heritage, entry.Leads other := by
  constructor
  · intro leads
    cases leads with
    | here => exact Or.inl rfl
    | heritage member leads => exact Or.inr ⟨_, member, leads⟩
  · intro given
    rcases given with rfl | ⟨entry, member, leads⟩
    · exact .here _
    · exact .heritage member leads

@[simp] theorem leads_name_iff :
    (TypeExpr.reference name []).Leads other ↔ other = .reference name [] := by
  constructor
  · intro leads
    cases leads
    rfl
  · intro same
    subst same
    exact .here _

theorem leads_wrapper_iff
    (wrapper : name = readonlyName ∨ ∃ dispatch : Dispatch, name = dispatch.wrapperName) :
    (TypeExpr.reference name (first :: rest)).Leads other ↔
      other = .reference name (first :: rest) ∨ first.Leads other := by
  constructor
  · intro leads
    cases leads with
    | here => exact Or.inl rfl
    | readonly leads => exact Or.inr leads
    | handler _ leads => exact Or.inr leads
  · intro given
    rcases given with rfl | leads
    · exact .here _
    · obtain rfl | ⟨dispatch, rfl⟩ := wrapper
      · exact .readonly leads
      · exact .handler dispatch leads

end Leads

/-- No handler stands where a walk from the node looks. -/
def Plain (node : TypeExpr) : Prop :=
  ∀ name arguments, node.Leads (.reference name arguments) → Dispatch.ofWrapperName? name = none

theorem Plain.noHandler {name : String} {arguments : List TypeExpr}
    (plain : (TypeExpr.reference name arguments).Plain) : Dispatch.ofWrapperName? name = none :=
  plain name arguments (.here _)

end TypeExpr

namespace Declarations

/-- These are the declared names, each of them once. -/
def names (declarations : Declarations) : List String :=
  (declarations.entries.map Prod.fst).dedup

theorem mem_entries_of_find? {declarations : Declarations} {name : String} {definition : TypeExpr}
    (found : declarations.find? name = some definition) :
    (name, definition) ∈ declarations.entries := by
  unfold find? at found
  rw [List.lookup_eq_some_iff] at found
  obtain ⟨before, after, split, _⟩ := found
  rw [split]
  simp

/-- A found name is declared. -/
theorem mem_names_of_find? {declarations : Declarations} {name : String} {definition : TypeExpr}
    (found : declarations.find? name = some definition) : name ∈ declarations.names := by
  rw [names, List.mem_dedup]
  exact List.mem_map_of_mem (mem_entries_of_find? found)

/-- Distinct declared names are no more than all of them. -/
theorem length_le_names {declarations : Declarations} {chosen : List String}
    (distinct : chosen.Nodup)
    (declared : ∀ name ∈ chosen, ∃ definition, declarations.find? name = some definition) :
    chosen.length ≤ declarations.names.length := by
  apply distinct.length_le_of_subset
  intro name member
  obtain ⟨definition, found⟩ := declared name member
  exact mem_names_of_find? found

/-- An interface is owned when it is declared under its own name. -/
def Owns (declarations : Declarations) : TypeExpr → Prop
  | .interfaceDecl name own heritage =>
      declarations.find? name = some (.interfaceDecl name own heritage)
  | _ => True

/-- No interface stands inline where a walk from the node looks. -/
def Covers (declarations : Declarations) (node : TypeExpr) : Prop :=
  ∀ other, node.Leads other → declarations.Owns other

/-- A closed table has neither inline interfaces nor handlers where a walk looks. -/
structure Closed (declarations : Declarations) : Prop where
  covers : ∀ {name : String} {definition : TypeExpr},
    declarations.find? name = some definition → declarations.Covers definition.unaliased
  plain : ∀ {name : String} {definition : TypeExpr},
    declarations.find? name = some definition → definition.unaliased.Plain

/-- A table is closed when each of its entries is. -/
theorem Closed.of_entries {declarations : Declarations}
    (covers : ∀ entry ∈ declarations.entries, declarations.Covers entry.2.unaliased)
    (plain : ∀ entry ∈ declarations.entries, entry.2.unaliased.Plain) : declarations.Closed where
  covers found := covers _ (mem_entries_of_find? found)
  plain found := plain _ (mem_entries_of_find? found)

/-- The payload of a handler is looked into. -/
theorem Covers.payload {declarations : Declarations} {dispatch : Dispatch} {payload : TypeExpr}
    {rest : List TypeExpr}
    (covered : declarations.Covers (.reference dispatch.wrapperName (payload :: rest))) :
    declarations.Covers payload :=
  fun other leads => covered other (.handler dispatch leads)

end Declarations

end ComponentEvents
