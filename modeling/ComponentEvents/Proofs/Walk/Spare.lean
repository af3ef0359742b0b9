/-
This file compares walks whose chains hold fewer names with those whose chains hold more.
-/

import ComponentEvents.Proofs.Walk.Agreement
import ComponentEvents.Proofs.Walk.Guard
import Mathlib.Data.List.Perm.Subperm

namespace ComponentEvents

namespace Chain

variable {chain chain' : Chain} {spare : List String}

theorem subperm_enter (name : String) (fewer : chain'.Subperm (spare ++ chain)) :
    (chain'.enter name).Subperm (spare ++ chain.enter name) := by
  rw [enter, enter, ← List.append_assoc]
  exact (List.subperm_append_right [name]).mpr fewer

theorem subperm_mention (name : String) (fewer : chain'.Subperm (spare ++ chain)) :
    (chain'.mention name).Subperm (spare ++ chain.mention name) := by
  have kept : chain.Subperm (chain.mention name) := by
    unfold mention
    split
    · exact .refl _
    · exact (List.sublist_append_left chain [name]).subperm
  have fewer' := fewer.trans ((List.subperm_append_left spare).mpr kept)
  by_cases stays : name = "" ∨ name ∈ chain'
  · rw [mention, if_pos stays]
    exact fewer'
  · -- The name is new to the shorter chain, and from here on at the latest the longer one has it.
    have present : name ∈ chain.mention name := by
      unfold mention
      split
      · next given => exact given.resolve_left (stays ∘ Or.inl)
      · exact mem_enter.mpr (Or.inr rfl)
    rw [mention, if_neg stays, enter]
    exact (List.perm_append_singleton name chain').subperm_right.mpr
      (List.cons_subperm_of_not_mem_of_mem (stays ∘ Or.inr)
        (List.mem_append_right spare present) fewer')

end Chain

/-- A walk keeps in step where its chain holds no more names but for spare ones, which its limit
leaves room for and which it does not look up. -/
theorem InStep.ofSpare {config config' : Config} {declarations declarations' : Declarations}
    {known : String → Prop} (spare : List String)
    (detects : config'.detectCycles = config.detectCycles)
    (room : config.aliasLimit + spare.length ≤ config'.aliasLimit)
    (other : ∀ {name}, known name → name ∉ spare)
    (find : ∀ {name}, known name → declarations'.find? name = declarations.find? name)
    (within : ∀ {name definition}, known name → declarations.find? name = some definition →
      definition.unaliased.Within known) :
    InStep config config' declarations declarations' known
      (fun chain chain' => chain'.Subperm (spare ++ chain)) ExtractionError.IsLoop where
  find := find
  within := within
  mention name fewer := Chain.subperm_mention name fewer
  enter := by
    intro chain chain' name fewer isKnown admitted
    refine ⟨⟨?_, ?_⟩, Chain.subperm_enter name fewer⟩
    · rintro ⟨given, visited⟩
      rw [detects] at given
      obtain spared | visited := List.mem_append.mp (fewer.subset visited)
      · exact other isKnown spared
      · exact admitted.1 ⟨given, visited⟩
    · have shorter := fewer.length_le
      have below := admitted.2
      rw [List.length_append] at shorter
      omega
  refused _ _ _ := Or.inl (Chain.isLoop_refusal _ _ _)

end ComponentEvents
