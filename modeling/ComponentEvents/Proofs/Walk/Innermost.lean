/-
This file says which handler on the way to a payload decides its dispatch and its legacy name.
-/

import ComponentEvents.Handler
import ComponentEvents.Proofs.Walk.Payload
import ComponentEvents.TypeExpr.Build

namespace ComponentEvents

/-- What was found outside of a walk counts where the walk met no handler. -/
def Resolution.under (dispatch : Option Dispatch) (legacy : Option String) :
    Resolution → Resolution
  | ⟨some members, none, _⟩ => ⟨some members, dispatch, legacy⟩
  | resolution => resolution

/-- An inner handler hides the outer ones. -/
theorem Resolution.under_under (inner : Dispatch) (dispatch : Option Dispatch)
    (innerLegacy legacy : Option String) (resolution : Resolution) :
    (resolution.under (some inner) innerLegacy).under dispatch legacy =
      resolution.under (some inner) innerLegacy := by
  obtain ⟨members, found, foundLegacy⟩ := resolution
  cases members with
  | none => rfl
  | some members => cases found <;> rfl

namespace Payload

variable {config : Config} {declarations : Declarations}

/-- The walk for a payload keeps what was found outside of it unless it meets a handler, and it
makes the same notes and fails alike in either case. -/
theorem resolve_under (chain : Chain) (dispatch : Option Dispatch) (legacy : Option String)
    (node : TypeExpr) :
    (resolve config declarations chain dispatch legacy node).run =
      ⟨(resolve config declarations chain none none node).run.log,
        (resolve config declarations chain none none node).run.value.map
          (·.under dispatch legacy)⟩ := by
  induction chain, dispatch, legacy, node using resolve_induction config declarations with
  | interfaceDecl chain dispatch legacy name own heritage =>
      rw [resolve_interfaceDecl, resolve_interfaceDecl]
      cases Heritage.members config declarations chain (.interfaceDecl name own heritage) <;> rfl
  | object chain dispatch legacy own =>
      rw [resolve_object, resolve_object]
      rfl
  | missingArgument chain dispatch legacy =>
      rw [resolve_missingArgument, resolve_missingArgument]
      rfl
  | readonly chain dispatch legacy first rest inductionHypothesis =>
      rw [resolve_readonly, resolve_readonly]
      exact inductionHypothesis
  | noPayload chain dispatch legacy inner =>
      rw [resolve_noPayload, resolve_noPayload]
      rfl
  | legacyRefused chain dispatch legacy inner payload rest error refused =>
      rw [resolve_legacyRefused dispatch legacy refused, resolve_legacyRefused none none refused]
      rfl
  | nullish chain dispatch legacy inner payload rest innerLegacy legal missing =>
      rw [resolve_nullish dispatch legacy legal missing, resolve_nullish none none legal missing]
      rfl
  | payload chain dispatch legacy inner payload rest innerLegacy legal present
      inductionHypothesis =>
      -- Both walks go on with what this handler says, and nothing outside of it is left over.
      rw [resolve_payload dispatch legacy legal present, resolve_payload none none legal present,
        inductionHypothesis]
      apply Logged.ext
      · rfl
      · cases (resolve config declarations chain none none payload).run.value with
        | error error => rfl
        | ok resolution =>
            exact congrArg Except.ok
              (Resolution.under_under inner dispatch innerLegacy legacy resolution).symm
  | undeclared chain dispatch legacy name arguments other noHandler absent =>
      rw [resolve_undeclared dispatch legacy arguments other noHandler absent,
        resolve_undeclared none none arguments other noHandler absent]
      rfl
  | admitted chain dispatch legacy name arguments definition other noHandler found admitted
      inductionHypothesis =>
      rw [resolve_admitted dispatch legacy arguments other noHandler found admitted,
        resolve_admitted none none arguments other noHandler found admitted, inductionHypothesis]
  | refused chain dispatch legacy name arguments definition other noHandler found refused =>
      rw [resolve_refused dispatch legacy arguments other noHandler found refused,
        resolve_refused none none arguments other noHandler found refused]
      rfl
  | notSource chain dispatch legacy node noSource =>
      rw [resolve_notSource dispatch legacy noSource, resolve_notSource none none noSource]
      rfl

/-- The walk for a payload goes from the first node to the second through these handlers, the
outermost first. A handler has a dispatch and may have a legacy name. -/
inductive Passes (declarations : Declarations) :
    TypeExpr → List (Dispatch × Option String) → TypeExpr → Prop
  | here (node : TypeExpr) : Passes declarations node [] node
  | readonly {first last : TypeExpr} {handlers : List (Dispatch × Option String)}
      (rest : List TypeExpr) (passes : Passes declarations first handlers last) :
      Passes declarations (.reference TypeExpr.readonlyName (first :: rest)) handlers last
  | handler {inner : Dispatch} {payload last : TypeExpr} {rest : List TypeExpr}
      {legacy : Option String} {handlers : List (Dispatch × Option String)}
      (legal : legacyName inner.wrapperName (payload :: rest) = .ok legacy)
      (passes : Passes declarations payload handlers last) :
      Passes declarations (.reference inner.wrapperName (payload :: rest))
        ((inner, legacy) :: handlers) last
  | declared {name : String} {definition last : TypeExpr}
      {handlers : List (Dispatch × Option String)} (arguments : List TypeExpr)
      (other : name ≠ TypeExpr.readonlyName) (noHandler : Dispatch.ofWrapperName? name = none)
      (found : declarations.find? name = some definition)
      (passes : Passes declarations definition.unaliased handlers last) :
      Passes declarations (.reference name arguments) handlers last

/-- The members stand at the end of the walk. The innermost handler on the way decides both the
dispatch and the legacy name, and where there is no handler, what was found outside counts. -/
def Innermost (declarations : Declarations) (dispatch : Option Dispatch) (legacy : Option String)
    (node : TypeExpr) (resolution : Resolution) : Prop :=
  ∃ members handlers last, Passes declarations node handlers last ∧
    (∀ name arguments, last ≠ .reference name arguments) ∧
    resolution = match handlers.getLast? with
      | some (inner, innerLegacy) => ⟨some members, some inner, innerLegacy⟩
      | none => ⟨some members, dispatch, legacy⟩

variable {chain : Chain} {dispatch : Option Dispatch} {legacy : Option String}
  {resolution : Resolution}

theorem Innermost.readonly {first : TypeExpr} (rest : List TypeExpr)
    (innermost : Innermost declarations dispatch legacy first resolution) :
    Innermost declarations dispatch legacy (.reference TypeExpr.readonlyName (first :: rest))
      resolution := by
  obtain ⟨members, handlers, last, passes, ended, same⟩ := innermost
  exact ⟨members, handlers, last, passes.readonly rest, ended, same⟩

theorem Innermost.declared {name : String} {definition : TypeExpr} (arguments : List TypeExpr)
    (other : name ≠ TypeExpr.readonlyName) (noHandler : Dispatch.ofWrapperName? name = none)
    (found : declarations.find? name = some definition)
    (innermost : Innermost declarations dispatch legacy definition.unaliased resolution) :
    Innermost declarations dispatch legacy (.reference name arguments) resolution := by
  obtain ⟨members, handlers, last, passes, ended, same⟩ := innermost
  exact ⟨members, handlers, last, passes.declared arguments other noHandler found, ended, same⟩

/-- A handler counts for its payload like what was found outside of it. -/
theorem Innermost.handler {inner : Dispatch} {payload : TypeExpr} {rest : List TypeExpr}
    {innerLegacy : Option String}
    (legal : legacyName inner.wrapperName (payload :: rest) = .ok innerLegacy)
    (innermost : Innermost declarations (some inner) innerLegacy payload resolution) :
    Innermost declarations dispatch legacy (.reference inner.wrapperName (payload :: rest))
      resolution := by
  obtain ⟨members, handlers, last, passes, ended, rfl⟩ := innermost
  refine ⟨members, (inner, innerLegacy) :: handlers, last, passes.handler legal, ended, ?_⟩
  cases handlers with
  | nil => rfl
  | cons next handlers =>
      rw [List.getLast?_cons_cons, List.getLast?_cons]

/-- A walk that begins at a handler has an innermost one. -/
theorem Innermost.complete {inner : Dispatch} {arguments : List TypeExpr}
    (innermost : Innermost declarations dispatch legacy (.reference inner.wrapperName arguments)
      resolution) :
    ∃ members dispatch legacy, resolution = ⟨some members, some dispatch, legacy⟩ := by
  obtain ⟨members, handlers, last, passes, ended, rfl⟩ := innermost
  generalize same : TypeExpr.reference inner.wrapperName arguments = node at passes
  cases passes with
  | here => exact (ended _ _ same.symm).elim
  | readonly =>
      injection same with reserved
      exact (inner.wrapperName_ne_readonlyName reserved).elim
  | @handler other payload _ rest otherLegacy handlers legal passes =>
      rw [List.getLast?_cons]
      exact ⟨members, _, _, rfl⟩
  | declared _ _ noHandler =>
      cases same
      cases noHandler.symm.trans (Dispatch.ofWrapperName?_wrapperName inner)

/-- A walk for a payload that ends without a failure has met an undeclared name, or it has come to
members and tells of the innermost handler on the way. -/
theorem innermost_of_resolved
    (resolved : (resolve config declarations chain dispatch legacy node).run.value =
      .ok resolution) :
    resolution = .unresolved ∨ Innermost declarations dispatch legacy node resolution := by
  induction chain, dispatch, legacy, node using resolve_induction config declarations with
  | interfaceDecl chain dispatch legacy name own heritage =>
      rw [resolve_interfaceDecl] at resolved
      cases collected : Heritage.members config declarations chain
          (.interfaceDecl name own heritage) with
      | error error =>
          rw [collected] at resolved
          cases resolved
      | ok members =>
          rw [collected] at resolved
          cases resolved
          exact Or.inr ⟨members, [], _, .here _, nofun, rfl⟩
  | object chain dispatch legacy own =>
      rw [resolve_object] at resolved
      cases resolved
      exact Or.inr ⟨own, [], _, .here _, nofun, rfl⟩
  | missingArgument chain dispatch legacy =>
      rw [resolve_missingArgument] at resolved
      cases resolved
  | readonly chain dispatch legacy first rest inductionHypothesis =>
      rw [resolve_readonly] at resolved
      exact (inductionHypothesis resolved).imp_right (·.readonly rest)
  | noPayload chain dispatch legacy inner =>
      rw [resolve_noPayload] at resolved
      cases resolved
  | legacyRefused chain dispatch legacy inner payload rest error refused =>
      rw [resolve_legacyRefused dispatch legacy refused] at resolved
      cases resolved
  | nullish chain dispatch legacy inner payload rest innerLegacy legal missing =>
      rw [resolve_nullish dispatch legacy legal missing] at resolved
      cases resolved
      refine Or.inr ⟨[], [(inner, innerLegacy)], payload, .handler legal (.here payload), ?_, rfl⟩
      rintro name arguments rfl
      cases missing
  | payload chain dispatch legacy inner payload rest innerLegacy legal present
      inductionHypothesis =>
      rw [resolve_payload dispatch legacy legal present] at resolved
      exact (inductionHypothesis resolved).imp_right (·.handler legal)
  | undeclared chain dispatch legacy name arguments other noHandler absent =>
      rw [resolve_undeclared dispatch legacy arguments other noHandler absent] at resolved
      cases resolved
      exact Or.inl rfl
  | admitted chain dispatch legacy name arguments definition other noHandler found admitted
      inductionHypothesis =>
      rw [resolve_admitted dispatch legacy arguments other noHandler found admitted] at resolved
      exact (inductionHypothesis resolved).imp_right (·.declared arguments other noHandler found)
  | refused chain dispatch legacy name arguments definition other noHandler found refused =>
      rw [resolve_refused dispatch legacy arguments other noHandler found refused] at resolved
      cases resolved
  | notSource chain dispatch legacy node noSource =>
      rw [resolve_notSource dispatch legacy noSource] at resolved
      cases resolved

/-- What was found outside of a walk changes nothing but the dispatch and the legacy name of a walk
without a handler. A walk without a failure tells of the innermost handler that it met, or it knows
nothing, and a walk that begins at a found handler knows everything or nothing. -/
theorem resolve_accumulated (config : Config) (declarations : Declarations) (chain : Chain) :
    (∀ dispatch legacy node,
      (resolve config declarations chain dispatch legacy node).run =
        ⟨(resolve config declarations chain none none node).run.log,
          match (resolve config declarations chain none none node).run.value with
          | .error error => .error error
          | .ok ⟨some members, none, _⟩ => .ok ⟨some members, dispatch, legacy⟩
          | .ok resolution => .ok resolution⟩) ∧
    (∀ dispatch legacy node resolution,
      (resolve config declarations chain dispatch legacy node).run.value = .ok resolution →
        resolution = .unresolved ∨ Innermost declarations dispatch legacy node resolution) ∧
    ∀ optional type handler, (Handler.detect config optional type).value = some handler →
      ∀ dispatch legacy resolution,
        (resolve config declarations chain dispatch legacy handler.reference).run.value =
            .ok resolution →
          resolution = .unresolved ∨
            ∃ members dispatch legacy, resolution = ⟨some members, some dispatch, legacy⟩ := by
  refine ⟨?_, ?_, ?_⟩
  · intro dispatch legacy node
    rw [resolve_under]
    apply Logged.ext
    · rfl
    · cases (resolve config declarations chain none none node).run.value with
      | error error => rfl
      | ok resolution =>
          obtain ⟨members, found, foundLegacy⟩ := resolution
          cases members with
          | none => rfl
          | some members => cases found <;> rfl
  · intro dispatch legacy node resolution resolved
    exact innermost_of_resolved resolved
  · intro optional type handler _ dispatch legacy resolution resolved
    exact (innermost_of_resolved resolved).imp_right Innermost.complete

/-- A direct handler without a legacy name stands inside a bubbling one with a legacy name, and the
outer legacy name is lost together with the outer dispatch. -/
theorem resolve_accumulated_nested :
    let payload : TypeExpr := .readonly (.handler .direct (.object []) none)
    let outer : Handler := ⟨.bubble, [payload, .literal (.string "topOuter")], true⟩
    (Handler.detect .standard false (.nullable outer.reference)).value = some outer ∧
      (resolve .standard ⟨[]⟩ [] none none payload).run.value =
        .ok ⟨some [], some .direct, none⟩ ∧
      (resolve .standard ⟨[]⟩ [] none none outer.reference).run.value =
        .ok ⟨some [], some .direct, none⟩ := by
  intro payload outer
  obtain ⟨accumulated, -, -⟩ := resolve_accumulated .standard ⟨[]⟩ []
  have detected : (Handler.detect .standard false (.nullable outer.reference)).value =
      some outer := rfl
  have alone : (resolve .standard ⟨[]⟩ [] none none payload).run.value =
      .ok ⟨some [], some .direct, none⟩ := by
    change (resolve .standard ⟨[]⟩ [] none none (.reference TypeExpr.readonlyName
      [.reference Dispatch.direct.wrapperName [.object []]])).run.value = _
    rw [resolve_readonly, resolve_payload none none rfl rfl, resolve_object]
  have inside : (resolve .standard ⟨[]⟩ [] none none outer.reference).run.value =
      .ok ⟨some [], some .direct, none⟩ := by
    rw [Handler.reference, resolve_payload none none rfl rfl, accumulated, alone]
  exact ⟨detected, alone, inside⟩

end Payload
end ComponentEvents
