/-
This file shows that the names entered so far decide only whether a walk is refused.
-/

import ComponentEvents.Proofs.Walk.Refusal
import ComponentEvents.Proofs.Walk.Spare

namespace ComponentEvents

section Outcome

variable {Outcome : Type} {refused : Outcome → Prop} {outcome : Chain → Outcome}

/-- A chain with fewer names keeps an outcome that is not refused, and two chains that are not
refused have the same one. -/
structure Forgetful (refused : Outcome → Prop) (outcome : Chain → Outcome) : Prop where
  fewer : ∀ {chain chain' : Chain}, chain'.Subperm chain → ¬refused (outcome chain) →
    outcome chain' = outcome chain
  same : ∀ {chain chain' : Chain}, ¬refused (outcome chain) → ¬refused (outcome chain') →
    outcome chain' = outcome chain

/-- The chain without a name has the outcome of every chain that is not refused. -/
theorem Forgetful.of_fewer
    (fewer : ∀ {chain chain' : Chain}, chain'.Subperm chain →
      refused (outcome chain) ∨ outcome chain' = outcome chain) :
    Forgetful refused outcome where
  fewer included accepted := (fewer included).resolve_left accepted
  same := by
    intro chain chain' accepted accepted'
    have direct := (fewer (List.nil_subperm (l := chain))).resolve_left accepted
    have direct' := (fewer (List.nil_subperm (l := chain'))).resolve_left accepted'
    rw [← direct', direct]

end Outcome

/-- Walks keep in step where the second one starts with fewer names, but for what the guard
refuses to the first one. -/
theorem InStep.ofFewer (config : Config) (declarations : Declarations) :
    InStep config config declarations declarations (fun _ => True)
      (fun chain chain' => chain'.Subperm chain) ExtractionError.IsLoop :=
  .ofSpare [] rfl (Nat.le_refl _) (fun _ => List.not_mem_nil) (fun _ => rfl)
    fun _ _ _ _ _ => Or.inr trivial

namespace Payload

/-- A walk to a payload and a walk for members, from an interface or from any other node, ask the
chain only whether a name is refused. -/
theorem resolve_history (config : Config) (declarations : Declarations) :
    (∀ dispatch legacy node,
      Forgetful (fun run => Excused ExtractionError.IsLoop run.value) fun chain =>
        (resolve config declarations chain dispatch legacy node).run) ∧
    ∀ node, Forgetful (Excused ExtractionError.IsLoop) fun chain =>
      Heritage.members config declarations chain node := by
  have step := InStep.ofFewer config declarations
  constructor
  · intro dispatch legacy node
    refine .of_fewer fun fewer => ?_
    exact resolve_inStep step (fun _ _ _ => Or.inr trivial) fewer
  · intro node
    refine .of_fewer fun fewer => ?_
    exact Heritage.members_inStep step (fun _ _ _ => Or.inr trivial) fewer

/-- An interface is not entered again where its name stands in the chain, and it inherits the same
members there as at the start of a walk. -/
theorem resolve_history_selfInheriting :
    let config : Config := ⟨3, true, true, by decide⟩
    let node : TypeExpr := .interfaceDecl "Base" [.method "stop"] [.reference "Payload" []]
    let run := fun chain => (resolve config selfInheriting chain (some .bubble) none node).run
    List.Subperm [] ["Base", "Base"] ∧
      ¬Excused ExtractionError.IsLoop (run ["Base", "Base"]).value ∧
      run ["Base", "Base"] =
        ⟨[], .ok ⟨some [.method "persist", .method "stop"], some .bubble, none⟩⟩ ∧
      run [] = run ["Base", "Base"] := by
  intro config node run
  have payload : Heritage.members config selfInheriting ["Base", "Base"] (.reference "Payload" []) =
      .ok [.method "persist"] := by
    rw [Heritage.members_admitted [] (by decide) rfl (by decide)]
    exact Heritage.members_object _ _ _ _
  have mentioned : Chain.mention ["Base", "Base"] "Base" = ["Base", "Base"] := rfl
  have resolved : run ["Base", "Base"] =
      ⟨[], .ok ⟨some [.method "persist", .method "stop"], some .bubble, none⟩⟩ := by
    simp only [run, node]
    rw [resolve_interfaceDecl, Heritage.members_interfaceDecl, mentioned,
      Heritage.members_parts [] payload, Heritage.members_noParts]
    rfl
  have accepted : ¬Excused ExtractionError.IsLoop (run ["Base", "Base"]).value := by
    rw [resolved]
    rintro ⟨error, ⟨⟩, -⟩
  have fewer : List.Subperm [] ["Base", "Base"] := List.nil_subperm
  exact ⟨fewer, accepted, resolved,
    ((resolve_history config selfInheriting).1 (some .bubble) none node).fewer fewer accepted⟩

end Payload
end ComponentEvents
