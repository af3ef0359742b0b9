/-
This file shows that an extraction depends only on the declarations of the names that it comes to.
-/

import ComponentEvents.Proofs.Extraction.Agreement
import ComponentEvents.Proofs.Extraction.Detection
import ComponentEvents.Proofs.Walk.Concurrence
import ComponentEvents.Proofs.Walk.Names
import ComponentEvents.TypeExpr.Build

namespace ComponentEvents

theorem Member.references_subset_of_mem {member : Member} {members : List Member}
    (belongs : member ∈ members) : member.references ⊆ Member.referencesOfAll members := by
  induction members with
  | nil => cases belongs
  | cons first rest inductionHypothesis =>
      rw [referencesOfAll]
      obtain rfl | belongs := List.mem_cons.mp belongs
      · exact List.subset_append_left ..
      · exact List.subset_append_of_subset_right _ (inductionHypothesis belongs)

/-- What a type stands for is a part of it. -/
theorem TypeExpr.Offers.references_subset {type other : TypeExpr} (offers : type.Offers other) :
    other.references ⊆ type.references := by
  induction offers with
  | here => exact List.Subset.refl _
  | parenthesized _ inductionHypothesis =>
      rw [references]
      exact inductionHypothesis
  | arm member _ inductionHypothesis =>
      rw [references]
      exact List.Subset.trans inductionHypothesis (references_subset_of_mem member)

/-- The handler of a member is a part of it. -/
theorem Handler.references_subset_of_ofMember {config : Config} {member : Member} {key : String}
    {handler : Handler} (found : ofMember config member = some (key, handler)) :
    handler.reference.references ⊆ member.references := by
  cases member with
  | property key type optional =>
      rw [ofMember, Option.map_eq_some_iff] at found
      obtain ⟨handler, detected, same⟩ := found
      cases same
      exact (offers_of_detect detected).references_subset
  | _ => cases found

namespace Declarations

/-- Under the known names both tables say the same, and there they refer to known names only. -/
structure AgreesOn (declarations : Declarations) (known : String → Prop)
    (declarations' : Declarations) : Prop where
  closed : ∀ {name definition}, known name → declarations.find? name = some definition →
    ∀ other ∈ definition.references, other = TypeExpr.readonlyName ∨ known other
  same : ∀ {name}, known name → declarations'.find? name = declarations.find? name

/-- Walks with the same guard keep in step where their tables agree. -/
theorem AgreesOn.inStep {known : String → Prop} {declarations declarations' : Declarations}
    (agrees : declarations.AgreesOn known declarations') (config : Config) :
    InStep config config declarations declarations' known Eq fun _ => False where
  find := agrees.same
  within isKnown found := by
    apply TypeExpr.within_of_references
    rw [TypeExpr.references_unaliased]
    exact agrees.closed isKnown found
  mention name same := by rw [same]
  enter same isKnown admitted := by
    subst same
    exact ⟨admitted, rfl⟩
  refused same isKnown refused := by
    subst same
    exact Or.inr ⟨refused, rfl⟩

end Declarations

namespace Extraction

/-- Only the declarations of known names count where the members refer to known names only. The
reserved name of read-only types is looked up in neither table. -/
theorem events_local (config : Config) {known : String → Prop}
    {declarations declarations' : Declarations} {members : List Member}
    (named : ∀ name ∈ Member.referencesOfAll members,
      name = TypeExpr.readonlyName ∨ known name)
    (agrees : declarations.AgreesOn known declarations') :
    (events config declarations' members).run = (events config declarations members).run := by
  have walks : ∀ member ∈ members, ∀ key handler,
      Handler.ofMember config member = some (key, handler) →
        WalksAgree (fun _ => False) config config declarations declarations' handler := by
    intro member belongs key handler found
    have within : handler.reference.Within known := by
      apply TypeExpr.within_of_references
      intro name mentioned
      exact named name (Member.references_subset_of_mem belongs
        (Handler.references_subset_of_ofMember found mentioned))
    exact Payload.resolve_inStep (agrees.inStep config) within rfl
  obtain ⟨_, -, ⟨⟩⟩ | same := events_agrees rfl (fun _ _ => id) walks
  exact same

/-- A table with one interface. -/
def rows : Declarations :=
  ⟨[("Row", .interfaceDecl "Row" [.property "id" (.keyword .string) false] [])]⟩

/-- The declarations before that of the interface are not looked at. -/
theorem events_local_rows :
    let members : List Member :=
      [.property "onSelect" (.handler .direct (.readonly (.named "Row")) none) false]
    let known : String → Prop := (· ∈ ["DirectEventHandler", "Row"])
    let crowded : Declarations :=
      ⟨("Readonly", .aliasDecl "Readonly" (.named "Readonly")) ::
        ("Column", .aliasDecl "Column" (.named "Row")) :: rows.entries⟩
    (∀ name ∈ Member.referencesOfAll members, name = TypeExpr.readonlyName ∨ known name) ∧
      rows.AgreesOn known crowded ∧
      (events .standard rows members).run.value =
        .ok [⟨"onSelect", false, .direct, none, [⟨"id", false, .scalar .string⟩]⟩] ∧
      (events .standard crowded members).run = (events .standard rows members).run := by
  intro members known crowded
  have named : ∀ name ∈ Member.referencesOfAll members,
      name = TypeExpr.readonlyName ∨ known name := by decide
  have agrees : rows.AgreesOn known crowded := by
    constructor
    · intro name definition _ found
      have belongs := Declarations.mem_entries_of_find? found
      rw [rows, List.mem_singleton] at belongs
      cases belongs
      simp [TypeExpr.references, TypeExpr.referencesOfAll, Member.references,
        Member.referencesOfAll]
    · intro name isKnown
      obtain rfl | rfl : name = "DirectEventHandler" ∨ name = "Row" := by
        simpa [known] using isKnown
      · rfl
      · rfl
  let handler : Handler := ⟨.direct, [.readonly (.named "Row")], false⟩
  have resolved : (Payload.resolve .standard rows [] none none handler.reference).run.value =
      .ok ⟨some [.property "id" (.keyword .string) false], some .direct, none⟩ := by
    have row : rows.find? "Row" =
        some (.interfaceDecl "Row" [.property "id" (.keyword .string) false] []) := rfl
    rw [Handler.reference, Payload.resolve_payload none none rfl rfl, TypeExpr.readonly,
      Payload.resolve_readonly, TypeExpr.named,
      Payload.resolve_interface _ _ [] (by decide) (by decide) rfl row,
      Heritage.members_noHeritage]
    rfl
  have made : (handlerEvent .standard rows "onSelect" handler).run.value =
      .ok ⟨"onSelect", false, .direct, none, [⟨"id", false, .scalar .string⟩]⟩ :=
    handlerEvent_eq_ok_iff.mpr ⟨_, _, _, _, resolved, rfl, rfl⟩
  have extracted : (events .standard rows members).run.value =
        .ok [⟨"onSelect", false, .direct, none, [⟨"id", false, .scalar .string⟩]⟩] := by
    have found : Handler.ofMember .standard
        (.property "onSelect" (.handler .direct (.readonly (.named "Row")) none) false) =
          some ("onSelect", handler) := rfl
    rw [value_events_handler found, made]
    rfl
  exact ⟨named, agrees, extracted, events_local .standard named agrees⟩

end Extraction
end ComponentEvents
