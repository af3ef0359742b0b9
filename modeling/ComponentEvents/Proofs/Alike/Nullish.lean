/-
This file shows that of the nullish arms of unions it only counts whether there are any.
-/

import ComponentEvents.Proofs.Alike.Events
import ComponentEvents.Proofs.Extraction.Batch
import ComponentEvents.Proofs.Walk.Concurrence
import ComponentEvents.TypeExpr.Build

namespace ComponentEvents

/-- Alike causes under the same names are equal except for the text of a reference. -/
theorem Cause.Alike.eq_or_text {cause cause' : Cause}
    (alike : cause.Alike .identity cause') :
    cause' = cause ∨ ∃ reference reference',
      cause = .obstacle (.legacyNameNotText reference) ∧
        cause' = .obstacle (.legacyNameNotText reference') := by
  cases alike with
  | @unsupportedProperty property kind kind' called =>
      obtain rfl : kind' = kind := called.elim id id
      exact Or.inl rfl
  | unresolvedArguments event => exact Or.inl rfl
  | obstacle alike =>
      cases alike with
      | legacyNameNotText reference reference' => exact Or.inr ⟨reference, reference', rfl, rfl⟩
      | _ => exact Or.inl rfl
  | loop reason chain => exact Or.inl (congrArg (Cause.loop reason) (List.map_id chain))

namespace Extraction

/-- Members have the same events, or fail alike, when unions in them and in the table have other
nullish arms in other places. The errors are equal but for the text of a handler whose legacy name
is no text. -/
theorem events_nullish (config : Config) {declarations declarations' : Declarations}
    {members members' : List Member} (tables : declarations.Alike .identity declarations')
    (alike : List.Forall₂ (Member.Alike .identity) members members') :
    (∃ found, (events config declarations members).run.value = .ok found ∧
      (events config declarations' members').run.value = .ok found) ∨
    ∃ error error', (events config declarations members).run.value = .error error ∧
      (events config declarations' members').run.value = .error error' ∧
      error'.event = error.event ∧
      (error'.cause = error.cause ∨ ∃ reference reference',
        error.cause = .obstacle (.legacyNameNotText reference) ∧
          error'.cause = .obstacle (.legacyNameNotText reference')) := by
  have both := events_alike config tables alike
  obtain ⟨found, outcome, outcome'⟩ | ⟨error, error', failed, failed', same⟩ :=
    both.same_or_failed
  · exact Or.inl ⟨found, outcome, outcome'⟩
  · exact Or.inr ⟨error, error', failed, failed', same.event, same.cause.eq_or_text⟩

/-- The missing values are others and stand elsewhere, also in an inherited property. -/
theorem events_nullish_moved :
    let handler : TypeExpr := .handler .direct (.named "Row") none
    let members : List Member := [.property "onSelect" (.union [handler, .keyword .null]) false]
    let members' : List Member :=
      [.property "onSelect" (.union [.keyword .undefined, handler, .keyword .null]) false]
    let declarations : TypeExpr → Declarations := fun id =>
      ⟨[("Base", .interfaceDecl "Base" [.property "id" id false] []),
        ("Row", .interfaceDecl "Row" [] [.named "Base"])]⟩
    let id : TypeExpr := .union [.keyword .string, .keyword .null]
    let id' : TypeExpr := .union [.keyword .undefined, .keyword .string]
    (declarations id).Alike .identity (declarations id') ∧
      List.Forall₂ (Member.Alike .identity) members members' ∧
      (events .standard (declarations id') members').run.value =
        .ok [⟨"onSelect", true, .direct, none, [⟨"id", true, .scalar .string⟩]⟩] := by
  intro handler members members' declarations id id'
  have alike : List.Forall₂ (Member.Alike .identity) members members' :=
    .cons (.property _ _ (.union rfl (.cons (.reference _ (.cons (.reference _ .nil) .nil)) .nil)))
      .nil
  have tables : (declarations id).Alike .identity (declarations id') := by
    intro name
    change Option.Rel _ ((declarations id).find? name) ((declarations id').find? name)
    simp only [declarations, Declarations.find?, List.lookup_cons, List.lookup_nil]
    cases name == "Base" with
    | true =>
        have alikeId : id.Alike .identity id' := .union rfl (.cons (.keyword _) .nil)
        exact .some (.interfaceDecl "Base" (.cons (.property _ _ alikeId) .nil) .nil)
    | false =>
        cases name == "Row" with
        | true => exact .some (.interfaceDecl "Row" .nil (.cons (.reference "Base" .nil) .nil))
        | false => exact .none
  let handler' : Handler := ⟨.direct, [.named "Row"], true⟩
  have resolved : (Payload.resolve .standard (declarations id) [] none none
      handler'.reference).run.value =
        .ok ⟨some [.property "id" id false], some .direct, none⟩ := by
    have inherited : Heritage.members .standard (declarations id) ["Row"] (.reference "Base" []) =
        .ok [.property "id" id false] := by
      have base : (declarations id).find? "Base" =
          some (.interfaceDecl "Base" [.property "id" id false] []) := rfl
      rw [Heritage.members_admitted [] (by decide) base (by decide)]
      exact Heritage.members_noHeritage _ _ _ "Base" [.property "id" id false]
    have row : (declarations id).find? "Row" =
        some (.interfaceDecl "Row" [] [.named "Base"]) := rfl
    have mentioned : Chain.mention [] "Row" = ["Row"] := rfl
    rw [Handler.reference, Payload.resolve_payload none none rfl rfl, TypeExpr.named,
      Payload.resolve_interface _ _ [] (by decide) (by decide) rfl row,
      Heritage.members_interfaceDecl, mentioned, TypeExpr.named,
      Heritage.members_parts [] inherited, Heritage.members_noParts]
    rfl
  have made : (handlerEvent .standard (declarations id) "onSelect" handler').run.value =
      .ok ⟨"onSelect", true, .direct, none, [⟨"id", true, .scalar .string⟩]⟩ :=
    handlerEvent_eq_ok_iff.mpr ⟨_, _, _, _, resolved, rfl, rfl⟩
  have extracted : (events .standard (declarations id) members).run.value =
      .ok [⟨"onSelect", true, .direct, none, [⟨"id", true, .scalar .string⟩]⟩] := by
    have found : Handler.ofMember .standard
        (.property "onSelect" (.union [handler, .keyword .null]) false) =
          some ("onSelect", handler') := rfl
    rw [value_events_handler found, made]
    rfl
  refine ⟨tables, alike, ?_⟩
  obtain ⟨found, outcome, outcome'⟩ | ⟨error, _, outcome, -⟩ :=
    events_nullish .standard tables alike
  · exact outcome'.trans (outcome.symm.trans extracted)
  · cases outcome.symm.trans extracted

end Extraction
end ComponentEvents
