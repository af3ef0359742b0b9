/-
This file shows that walks from alike nodes have alike outcomes.
-/

import ComponentEvents.Proofs.Alike.Outcomes
import ComponentEvents.Proofs.Walk.Members
import ComponentEvents.Proofs.Walk.Payload

namespace ComponentEvents

variable {rename : Renaming} {config : Config} {declarations declarations' : Declarations}

namespace Declarations.Alike

variable {name : String}

theorem find_none (alike : declarations.Alike rename declarations')
    (absent : declarations.find? name = none) : declarations'.find? (rename name) = none := by
  have related := alike name
  rw [absent] at related
  generalize declarations'.find? (rename name) = found at related
  cases related
  rfl

theorem find_some (alike : declarations.Alike rename declarations') {definition : TypeExpr}
    (found : declarations.find? name = some definition) :
    ∃ definition', declarations'.find? (rename name) = some definition' ∧
      definition.Alike rename definition' := by
  have related := alike name
  rw [found] at related
  generalize declarations'.find? (rename name) = found' at related
  cases related with
  | some alike => exact ⟨_, rfl, alike⟩

end Declarations.Alike

namespace Heritage

theorem isSource_alike {node node' : TypeExpr} (alike : node.Alike rename node') :
    isSource node' = isSource node := by
  cases alike <;> rfl

/-- Alike nodes have alike members or fail alike. -/
theorem members_alike (tables : declarations.Alike rename declarations') {chain : Chain}
    {node node' : TypeExpr} (alike : node.Alike rename node') :
    AlikeOutcomes rename (List.Forall₂ (Member.Alike rename))
      (members config declarations chain node)
      (members config declarations' (chain.map rename) node') := by
  induction chain, node using members_induction config declarations generalizing node' with
  | object chain own =>
      cases alike with
      | object alike =>
          rw [members_object, members_object]
          exact .ok alike
  | interfaceDecl chain name own heritage inductionHypothesis =>
      cases alike with
      | interfaceDecl _ alike alikeHeritage =>
          rw [members_interfaceDecl, members_interfaceDecl, rename.mention_map]
          exact (inductionHypothesis (.intersection alikeHeritage)).map
            fun inherited => List.rel_append inherited alike
  | noParts chain =>
      cases alike with
      | intersection alike =>
          cases alike
          rw [members_noParts, members_noParts]
          exact .ok .nil
  | parts chain node nodes firstHypothesis restHypothesis =>
      cases alike with
      | intersection alike =>
          cases alike with
          | @cons _ _ _ nodes' first rest =>
              cases collected : members config declarations chain node with
              | ok own =>
                  obtain ⟨own', collected', holds⟩ := (firstHypothesis first).of_ok collected
                  rw [members_parts nodes collected, members_parts nodes' collected']
                  exact (restHypothesis (.intersection rest)).map
                    fun alikeRest => List.rel_append holds alikeRest
              | error error =>
                  obtain ⟨error', failed', alike⟩ := (firstHypothesis first).of_error collected
                  rw [members_failedPart nodes collected, members_failedPart nodes' failed']
                  exact .error alike
  | missingArgument chain =>
      cases alike with
      | reference _ alike =>
          cases alike
          rw [rename.apply_readonlyName, members_missingArgument, members_missingArgument]
          exact .blocked (.missingArgument _)
  | readonly chain first rest inductionHypothesis =>
      cases alike with
      | reference _ alike =>
          cases alike with
          | cons alike _ =>
              rw [rename.apply_readonlyName, members_readonly, members_readonly]
              exact inductionHypothesis alike
  | undeclared chain name arguments other absent =>
      cases alike with
      | @reference _ _ arguments' alike =>
          have other' := mt rename.apply_eq_readonlyName_iff.mp other
          rw [members_undeclared arguments other absent,
            members_undeclared arguments' other' (tables.find_none absent)]
          exact .blocked (.undeclared name)
  | admitted chain name arguments definition other found admitted inductionHypothesis =>
      cases alike with
      | @reference _ _ arguments' alike =>
          have other' := mt rename.apply_eq_readonlyName_iff.mp other
          obtain ⟨definition', found', alikeDefinition⟩ := tables.find_some found
          rw [members_admitted arguments other found admitted,
            members_admitted arguments' other' found' (rename.admits_map_iff.mpr admitted),
            rename.enter_map]
          exact inductionHypothesis alikeDefinition.unaliased
  | refused chain name arguments definition other found refused =>
      cases alike with
      | @reference _ _ arguments' alike =>
          have other' := mt rename.apply_eq_readonlyName_iff.mp other
          have refused' := mt rename.admits_map_iff.mp refused
          obtain ⟨definition', found', -⟩ := tables.find_some found
          rw [members_refused arguments other found refused,
            members_refused arguments' other' found' refused']
          exact .error (rename.refusal_map config chain name)
  | notSource chain node noSource =>
      rw [members_notSource noSource, members_notSource ((isSource_alike alike).trans noSource),
        alike.nodeKind]
      exact .blocked (.notFlattenable _)

end Heritage

/-- Alike resolutions have alike members and the same dispatch and legacy name. -/
structure Resolution.Alike (rename : Renaming) (resolution resolution' : Resolution) : Prop where
  members : Option.Rel (List.Forall₂ (Member.Alike rename)) resolution.members resolution'.members
  dispatch : resolution'.dispatch = resolution.dispatch
  legacyName : resolution'.legacyName = resolution.legacyName

namespace Payload

theorem isSource_alike {node node' : TypeExpr} (alike : node.Alike rename node') :
    isSource node' = isSource node := by
  cases alike <;> rfl

/-- Only the text of a legacy name counts. -/
theorem legacyName_alike (name : String) {arguments arguments' : List TypeExpr}
    (alike : List.Forall₂ (TypeExpr.Alike rename) arguments arguments') :
    AlikeOutcomes rename Eq (legacyName name arguments) (legacyName name arguments') := by
  cases alike with
  | nil => exact .ok rfl
  | cons first rest =>
      cases rest with
      | nil => exact .ok rfl
      | @cons second second' _ _ alike _ =>
          unfold legacyName
          simp only [alike.stringLiteral?]
          cases second.stringLiteral? with
          | some legacy => exact .ok rfl
          | none => exact .blocked (.legacyNameNotText _ _)

theorem legacyName_alike_ok {name : String} {arguments arguments' : List TypeExpr}
    {legacy : Option String}
    (alike : List.Forall₂ (TypeExpr.Alike rename) arguments arguments')
    (legal : legacyName name arguments = .ok legacy) :
    legacyName name arguments' = .ok legacy := by
  obtain ⟨_, legal', rfl⟩ := (legacyName_alike name alike).of_ok legal
  exact legal'

/-- Alike nodes have alike payloads or fail alike. -/
theorem resolve_alike (tables : declarations.Alike rename declarations') {chain : Chain}
    {dispatch : Option Dispatch} {legacy : Option String} {node node' : TypeExpr}
    (alike : node.Alike rename node') :
    AlikeOutcomes rename (Resolution.Alike rename)
      (resolve config declarations chain dispatch legacy node).run.value
      (resolve config declarations' (chain.map rename) dispatch legacy node').run.value := by
  induction chain, dispatch, legacy, node using resolve_induction config declarations
    generalizing node' with
  | interfaceDecl chain dispatch legacy name own heritage =>
      cases alike with
      | interfaceDecl _ alike alikeHeritage =>
          rw [resolve_interfaceDecl, resolve_interfaceDecl]
          exact (Heritage.members_alike tables (.interfaceDecl name alike alikeHeritage)).map
            fun alike => ⟨.some alike, rfl, rfl⟩
  | object chain dispatch legacy own =>
      cases alike with
      | object alike =>
          rw [resolve_object, resolve_object]
          exact .ok ⟨.some alike, rfl, rfl⟩
  | missingArgument chain dispatch legacy =>
      cases alike with
      | reference _ alike =>
          cases alike
          rw [rename.apply_readonlyName, resolve_missingArgument, resolve_missingArgument]
          exact .blocked (.missingArgument _)
  | readonly chain dispatch legacy first rest inductionHypothesis =>
      cases alike with
      | reference _ alike =>
          cases alike with
          | cons alike _ =>
              rw [rename.apply_readonlyName, resolve_readonly, resolve_readonly]
              exact inductionHypothesis alike
  | noPayload chain dispatch legacy inner =>
      cases alike with
      | reference _ alike =>
          cases alike
          rw [rename.apply_wrapperName, resolve_noPayload, resolve_noPayload]
          exact .blocked (.missingArgument _)
  | legacyRefused chain dispatch legacy inner payload rest error refused =>
      cases alike with
      | reference _ alike =>
          have legacies := legacyName_alike inner.wrapperName alike
          cases alike with
          | cons =>
              obtain ⟨error', refused', alike⟩ := legacies.of_error refused
              rw [rename.apply_wrapperName, resolve_legacyRefused dispatch legacy refused,
                resolve_legacyRefused dispatch legacy refused']
              exact .error alike
  | nullish chain dispatch legacy inner payload rest innerLegacy legal missing =>
      cases alike with
      | reference _ alike =>
          have legal' := legacyName_alike_ok alike legal
          cases alike with
          | cons first alike =>
              have missing' := first.isNullish.trans missing
              rw [rename.apply_wrapperName, resolve_nullish dispatch legacy legal missing,
                resolve_nullish dispatch legacy legal' missing']
              exact .ok ⟨.some .nil, rfl, rfl⟩
  | payload chain dispatch legacy inner payload rest innerLegacy legal present
      inductionHypothesis =>
      cases alike with
      | reference _ alike =>
          have legal' := legacyName_alike_ok alike legal
          cases alike with
          | cons first alike =>
              have present' := first.isNullish.trans present
              rw [rename.apply_wrapperName, resolve_payload dispatch legacy legal present,
                resolve_payload dispatch legacy legal' present']
              exact inductionHypothesis first
  | undeclared chain dispatch legacy name arguments other noHandler absent =>
      cases alike with
      | @reference _ _ arguments' alike =>
          have other' := mt rename.apply_eq_readonlyName_iff.mp other
          have noHandler' := (rename.ofWrapperName?_apply name).trans noHandler
          rw [resolve_undeclared dispatch legacy arguments other noHandler absent,
            resolve_undeclared dispatch legacy arguments' other' noHandler'
              (tables.find_none absent)]
          exact .ok ⟨.none, rfl, rfl⟩
  | admitted chain dispatch legacy name arguments definition other noHandler found admitted
      inductionHypothesis =>
      cases alike with
      | @reference _ _ arguments' alike =>
          have other' := mt rename.apply_eq_readonlyName_iff.mp other
          have noHandler' := (rename.ofWrapperName?_apply name).trans noHandler
          have admitted' := rename.admits_map_iff.mpr admitted
          obtain ⟨definition', found', alikeDefinition⟩ := tables.find_some found
          rw [resolve_admitted dispatch legacy arguments other noHandler found admitted,
            resolve_admitted dispatch legacy arguments' other' noHandler' found' admitted',
            rename.enter_map]
          exact inductionHypothesis alikeDefinition.unaliased
  | refused chain dispatch legacy name arguments definition other noHandler found refused =>
      cases alike with
      | @reference _ _ arguments' alike =>
          have other' := mt rename.apply_eq_readonlyName_iff.mp other
          have noHandler' := (rename.ofWrapperName?_apply name).trans noHandler
          have refused' := mt rename.admits_map_iff.mp refused
          obtain ⟨definition', found', -⟩ := tables.find_some found
          rw [resolve_refused dispatch legacy arguments other noHandler found refused,
            resolve_refused dispatch legacy arguments' other' noHandler' found' refused']
          exact .error (rename.refusal_map config chain name)
  | notSource chain dispatch legacy node noSource =>
      rw [resolve_notSource dispatch legacy noSource,
        resolve_notSource dispatch legacy ((isSource_alike alike).trans noSource), alike.nodeKind]
      exact .blocked (.unnamed _)

end Payload
end ComponentEvents
