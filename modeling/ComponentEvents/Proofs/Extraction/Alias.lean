/-
This file puts the payload of an event behind a fresh name.
-/

import ComponentEvents.Proofs.Extraction.Batch
import ComponentEvents.Proofs.Extraction.Discard
import ComponentEvents.Proofs.Walk.Concurrence
import ComponentEvents.Proofs.Walk.Names
import ComponentEvents.Proofs.Walk.Spare
import ComponentEvents.TypeExpr.Build

namespace ComponentEvents

/-- One more name may be entered. -/
def Config.deeper (config : Config) : Config :=
  { config with aliasLimit := config.aliasLimit + 1, positive := Nat.succ_pos _ }

namespace Declarations

/-- The name stands for the definition. -/
def withAlias (declarations : Declarations) (name : String) (definition : TypeExpr) :
    Declarations :=
  ⟨(name, .aliasDecl name definition) :: declarations.entries⟩

/-- A fresh name is neither reserved nor declared, and no definition refers to it. -/
structure Fresh (declarations : Declarations) (name : String) : Prop where
  notReadonly : name ≠ TypeExpr.readonlyName
  noHandler : Dispatch.ofWrapperName? name = none
  undeclared : declarations.find? name = none
  unused : ∀ {other definition}, declarations.find? other = some definition →
    name ∉ definition.references

variable {declarations : Declarations} {name : String} {payload : TypeExpr}

theorem Fresh.of_entries (notReadonly : name ≠ TypeExpr.readonlyName)
    (noHandler : Dispatch.ofWrapperName? name = none)
    (undeclared : declarations.find? name = none)
    (unused : ∀ entry ∈ declarations.entries, name ∉ entry.2.references) :
    declarations.Fresh name where
  notReadonly := notReadonly
  noHandler := noHandler
  undeclared := undeclared
  unused found := unused _ (mem_entries_of_find? found)

@[simp] theorem find?_withAlias_self :
    (declarations.withAlias name payload).find? name = some (.aliasDecl name payload) :=
  List.lookup_cons_self

theorem find?_withAlias_other {other : String} (different : other ≠ name) :
    (declarations.withAlias name payload).find? other = declarations.find? other := by
  rw [withAlias, find?, List.lookup_cons, beq_false_of_ne different]
  rfl

/-- Where a name is fresh, an alias under it and a limit for it keep a walk in step. -/
theorem Fresh.inStep (fresh : declarations.Fresh name) (config : Config) (payload : TypeExpr) :
    InStep config config.deeper declarations (declarations.withAlias name payload) (· ≠ name)
      (fun chain chain' => chain'.Subperm ([name] ++ chain)) ExtractionError.IsLoop := by
  have other : ∀ {other : String}, other ≠ name → other ∉ [name] :=
    fun different visited => different (List.mem_singleton.mp visited)
  have within : ∀ {other definition}, other ≠ name → declarations.find? other = some definition →
      definition.unaliased.Within (· ≠ name) := by
    intro other definition _ found
    apply TypeExpr.within_of_references
    intro inner member
    rw [TypeExpr.references_unaliased] at member
    exact Or.inr fun same => fresh.unused found (same ▸ member)
  exact InStep.ofSpare [name] rfl (Nat.le_refl _) other find?_withAlias_other within

end Declarations

namespace Payload

/-- The legacy name does not depend on the payload. -/
theorem legacyName_payload {name : String} {payload : TypeExpr} {rest : List TypeExpr}
    {legacy : Option String} (other : TypeExpr)
    (legal : legacyName name (payload :: rest) = .ok legacy) :
    legacyName name (other :: rest) = .ok legacy := by
  cases rest with
  | nil => exact legal
  | cons second rest =>
      rw [legacyName] at legal ⊢
      cases value : second.stringLiteral? with
      | none =>
          rw [value] at legal
          cases legal
      | some text =>
          rw [value] at legal
          exact legal

variable {config : Config} {declarations : Declarations} {name : String} {payload : TypeExpr}
  (dispatch : Option Dispatch) (legacy : Option String)

/-- A walk goes from a fresh alias to its definition. -/
theorem value_resolve_alias (fresh : declarations.Fresh name) :
    (resolve config.deeper (declarations.withAlias name payload) [] dispatch legacy
        (.named name)).run.value =
      (resolve config.deeper (declarations.withAlias name payload) [name] dispatch legacy
        payload).run.value := by
  have admitted : config.deeper.Admits [] name := ⟨by simp, Nat.succ_pos _⟩
  rw [TypeExpr.named, resolve_admitted dispatch legacy [] fresh.notReadonly fresh.noHandler
    Declarations.find?_withAlias_self admitted]
  rfl

/-- What is found without a fresh alias is found below it. -/
theorem value_resolve_belowAlias (fresh : declarations.Fresh name)
    (unused : name ∉ payload.references) {resolution : Resolution}
    (resolved : (resolve config declarations [] dispatch legacy payload).run.value =
      .ok resolution) :
    (resolve config.deeper (declarations.withAlias name payload) [name] dispatch legacy
      payload).run.value = .ok resolution := by
  have within : payload.Within (· ≠ name) :=
    TypeExpr.within_of_references fun other member => Or.inr fun same => unused (same ▸ member)
  have walks : Excused ExtractionError.IsLoop
        (resolve config declarations [] dispatch legacy payload).run.value ∨
      (resolve config.deeper (declarations.withAlias name payload) [name] dispatch legacy
        payload).run = (resolve config declarations [] dispatch legacy payload).run :=
    resolve_inStep (fresh.inStep config payload) within (List.Subperm.refl [name])
  obtain ⟨error, failed, -⟩ | same := walks
  · rw [resolved] at failed
    cases failed
  · rw [same, resolved]

end Payload

namespace Extraction

variable {config : Config} {declarations : Declarations} {key name : String}
  {payload : TypeExpr} {dispatch : Dispatch} {rest : List TypeExpr} {optional : Bool}
  {event : Event String Bool}

/-- A property whose type is a handler is an event or fails as that event. -/
theorem value_propertyEvent_handler (arguments : List TypeExpr) :
    (propertyEvent config declarations key (.reference dispatch.wrapperName arguments)
      optional).run.value =
        ((handlerEvent config declarations key ⟨dispatch, arguments, optional⟩).run.value.mapError
          (·.inEvent key)).map some := by
  have found : Handler.ofMember config
      (.property key (.reference dispatch.wrapperName arguments) optional) =
        some (key, ⟨dispatch, arguments, optional⟩) := by
    simp [Handler.ofMember, Handler.detect]
  exact value_memberEvent_some found

theorem propertyEvent_handler_eq_ok_iff {arguments : List TypeExpr} :
    (propertyEvent config declarations key (.reference dispatch.wrapperName arguments)
      optional).run.value = .ok (some event) ↔
    (handlerEvent config declarations key ⟨dispatch, arguments, optional⟩).run.value =
      .ok event := by
  rw [value_propertyEvent_handler]
  cases (handlerEvent config declarations key ⟨dispatch, arguments, optional⟩).run.value <;>
    simp [Except.map, Except.mapError]

/-- A payload behind a fresh alias makes the same event, unless it is a nullish keyword. -/
theorem propertyEvent_alias (fresh : declarations.Fresh name) (unused : name ∉ payload.references)
    (extracted : (propertyEvent config declarations key
      (.reference dispatch.wrapperName (payload :: rest)) optional).run.value =
        .ok (some event)) :
    (propertyEvent config.deeper (declarations.withAlias name payload) key
        (.reference dispatch.wrapperName (.named name :: rest)) optional).run.value =
          .ok (some event) ↔
      payload.isNullish = false := by
  rw [propertyEvent_handler_eq_ok_iff, handlerEvent_eq_ok_iff] at extracted ⊢
  obtain ⟨found, dispatch', legacy, fields, resolved, mapped, rfl⟩ := extracted
  rw [Handler.reference] at resolved ⊢
  cases legal : Payload.legacyName dispatch.wrapperName (payload :: rest) with
  | error error =>
      rw [Payload.resolve_legacyRefused none none legal] at resolved
      cases resolved
  | ok innerLegacy =>
      have legal' := Payload.legacyName_payload (.named name) legal
      rw [Payload.resolve_payload none none legal' rfl, Payload.value_resolve_alias _ _ fresh]
      cases missing : payload.isNullish with
      | true =>
          -- The walk fails at a keyword, where a handler with the keyword has no members instead.
          have noSource : Payload.isSource payload = false := by
            cases payload with
            | keyword => rfl
            | _ => cases missing
          rw [Payload.resolve_notSource _ _ noSource]
          simp [Heritage.blocked]
      | false =>
          rw [Payload.resolve_payload none none legal missing] at resolved
          have resolved' := Payload.value_resolve_belowAlias _ _ fresh unused resolved
          have warned : config.deeper.warnOnDiscard = config.warnOnDiscard := rfl
          rw [← Payload.memberFields_congr warned] at mapped
          exact iff_of_true ⟨found, dispatch', legacy, fields, resolved', mapped, rfl⟩ rfl

/-- A read-only interface may be called by another name. -/
theorem propertyEvent_alias_readonly :
    let rows : Declarations :=
      ⟨[("Row", .interfaceDecl "Row" [.property "id" (.keyword .string) false] [])]⟩
    let payload : TypeExpr := .readonly (.named "Row")
    let legacy : Option Literal := some (.string "topSelect")
    let event : Event String Bool :=
      ⟨"onSelect", false, .direct, some "topSelect", [⟨"id", false, .scalar .string⟩]⟩
    rows.Fresh "Item" ∧ "Item" ∉ payload.references ∧
      (propertyEvent .standard rows "onSelect" (.handler .direct payload legacy)
        false).run.value = .ok (some event) ∧
      (propertyEvent Config.standard.deeper (rows.withAlias "Item" payload) "onSelect"
        (.handler .direct (.named "Item") legacy) false).run.value = .ok (some event) := by
  intro rows payload legacy event
  have fresh : rows.Fresh "Item" := by
    apply Declarations.Fresh.of_entries (by decide) rfl rfl
    simp [rows, TypeExpr.references, TypeExpr.referencesOfAll, Member.references,
      Member.referencesOfAll]
  have unused : "Item" ∉ payload.references := by decide
  have found : rows.find? "Row" =
      some (.interfaceDecl "Row" [.property "id" (.keyword .string) false] []) := rfl
  have resolved : (Payload.resolve .standard rows [] none none
      (.handler .direct payload legacy)).run.value =
        .ok ⟨some [.property "id" (.keyword .string) false], some .direct, some "topSelect"⟩ := by
    change (Payload.resolve .standard rows [] none none (.reference Dispatch.direct.wrapperName
      [.reference TypeExpr.readonlyName [.reference "Row" []],
        .literal (.string "topSelect")])).run.value = _
    rw [Payload.resolve_payload none none rfl rfl, Payload.resolve_readonly,
      Payload.resolve_interface _ _ [] (by decide) (by decide) rfl found,
      Heritage.members_noHeritage]
    rfl
  have extracted : (propertyEvent .standard rows "onSelect" (.handler .direct payload legacy)
      false).run.value = .ok (some event) :=
    propertyEvent_handler_eq_ok_iff.mpr
      (handlerEvent_eq_ok_iff.mpr ⟨_, _, _, _, resolved, rfl, rfl⟩)
  exact ⟨fresh, unused, extracted, (propertyEvent_alias fresh unused extracted).mpr rfl⟩

/-- An alias of null is no payload, where null itself is the payload without members. -/
theorem propertyEvent_alias_null :
    let nothing : TypeExpr := .keyword .null
    let empty : Declarations := ⟨[]⟩
    empty.Fresh "Nothing" ∧ "Nothing" ∉ nothing.references ∧
      (propertyEvent .standard empty "onLoad" (.handler .direct nothing none) false).run.value =
        .ok (some ⟨"onLoad", false, .direct, none, []⟩) ∧
      (propertyEvent Config.standard.deeper (empty.withAlias "Nothing" nothing) "onLoad"
        (.handler .direct (.named "Nothing") none) false).run.value =
          .error ⟨.obstacle (.unnamed "TSNullKeyword"), some "onLoad"⟩ := by
  intro nothing empty
  have fresh : empty.Fresh "Nothing" := .of_entries (by decide) rfl rfl (by simp [empty])
  refine ⟨fresh, by decide, ?_, ?_⟩
  · rw [TypeExpr.handler, propertyEvent_handler_eq_ok_iff, handlerEvent_eq_ok_iff]
    refine ⟨[], .direct, none, [], ?_, rfl, rfl⟩
    rw [Handler.reference, Payload.resolve_nullish none none rfl rfl]
  · have failed : (Payload.resolve Config.standard.deeper (empty.withAlias "Nothing" nothing) []
        none none (Handler.reference ⟨.direct, [.named "Nothing"], false⟩)).run.value =
          .error (.ofCause (.obstacle (.unnamed "TSNullKeyword"))) := by
      rw [Handler.reference, Payload.resolve_payload none none rfl rfl,
        Payload.value_resolve_alias _ _ fresh, Payload.resolve_notSource _ _ rfl]
      rfl
    change (propertyEvent _ _ _ (.reference Dispatch.direct.wrapperName [.named "Nothing"])
      false).run.value = _
    rw [value_propertyEvent_handler, value_handlerEvent, failed]
    rfl

end Extraction
end ComponentEvents
