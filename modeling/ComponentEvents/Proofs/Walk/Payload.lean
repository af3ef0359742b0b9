/-
This file states the walk for a payload case by case.
-/

import ComponentEvents.Payload.Resolution

namespace ComponentEvents

@[simp] theorem Extraction.run_note_bind {α : Type} (entry : LogEntry)
    (next : Unit → Extraction α) :
    (note entry >>= next).run = ⟨entry :: (next ()).run.log, (next ()).run.value⟩ :=
  run_bind_ok rfl

theorem Dispatch.wrapperName_ne_readonlyName (dispatch : Dispatch) :
    dispatch.wrapperName ≠ TypeExpr.readonlyName := by
  cases dispatch <;> decide

namespace Payload

/-- Only these nodes are looked into for a payload. -/
def isSource : TypeExpr → Bool
  | .object _ => true
  | .interfaceDecl _ _ _ => true
  | .reference _ _ => true
  | _ => false

section Equations

variable (config : Config) (declarations : Declarations) (chain : Chain)
  (dispatch : Option Dispatch) (legacy : Option String)

theorem resolve_interfaceDecl (name : String) (own : List Member) (heritage : List TypeExpr) :
    (resolve config declarations chain dispatch legacy (.interfaceDecl name own heritage)).run =
      ⟨[], (Heritage.members config declarations chain (.interfaceDecl name own heritage)).map
        (⟨some ·, dispatch, legacy⟩)⟩ := by
  rw [resolve]
  cases Heritage.members config declarations chain (.interfaceDecl name own heritage) <;> rfl

theorem resolve_object (own : List Member) :
    (resolve config declarations chain dispatch legacy (.object own)).run =
      ⟨[], .ok ⟨some own, dispatch, legacy⟩⟩ := by
  rw [resolve, Extraction.run_pure]

theorem resolve_missingArgument :
    (resolve config declarations chain dispatch legacy (.reference TypeExpr.readonlyName [])).run =
      ⟨[], Heritage.blocked (.missingArgument TypeExpr.readonlyName)⟩ := by
  rw [resolve, if_pos rfl]
  rfl

theorem resolve_readonly (first : TypeExpr) (rest : List TypeExpr) :
    resolve config declarations chain dispatch legacy
        (.reference TypeExpr.readonlyName (first :: rest)) =
      resolve config declarations chain dispatch legacy first := by
  rw [resolve, if_pos rfl]

theorem resolve_noPayload (inner : Dispatch) :
    (resolve config declarations chain dispatch legacy (.reference inner.wrapperName [])).run =
      ⟨[], Heritage.blocked (.missingArgument inner.wrapperName)⟩ := by
  rw [resolve, if_neg inner.wrapperName_ne_readonlyName, Dispatch.ofWrapperName?_wrapperName]
  rfl

/-- The legacy name is read before the payload is looked at. -/
theorem resolve_handler (inner : Dispatch) (payload : TypeExpr) (rest : List TypeExpr) :
    resolve config declarations chain dispatch legacy
        (.reference inner.wrapperName (payload :: rest)) =
      (ofExcept (legacyName inner.wrapperName (payload :: rest)) >>= fun innerLegacy =>
        if payload.isNullish then return ⟨some [], some inner, innerLegacy⟩
        else resolve config declarations chain (some inner) innerLegacy payload) := by
  rw [resolve, if_neg inner.wrapperName_ne_readonlyName, Dispatch.ofWrapperName?_wrapperName]

variable {config declarations chain} {inner : Dispatch} {name : String}
  {definition node payload : TypeExpr} {rest : List TypeExpr} {innerLegacy : Option String}
  {error : ExtractionError}

theorem resolve_legacyRefused
    (refused : legacyName inner.wrapperName (payload :: rest) = .error error) :
    (resolve config declarations chain dispatch legacy
      (.reference inner.wrapperName (payload :: rest))).run = ⟨[], .error error⟩ := by
  rw [resolve_handler, refused]
  rfl

theorem resolve_nullish (legal : legacyName inner.wrapperName (payload :: rest) = .ok innerLegacy)
    (nullish : payload.isNullish = true) :
    (resolve config declarations chain dispatch legacy
      (.reference inner.wrapperName (payload :: rest))).run =
        ⟨[], .ok ⟨some [], some inner, innerLegacy⟩⟩ := by
  rw [resolve_handler, legal, nullish]
  rfl

theorem resolve_payload (legal : legacyName inner.wrapperName (payload :: rest) = .ok innerLegacy)
    (other : payload.isNullish = false) :
    resolve config declarations chain dispatch legacy
        (.reference inner.wrapperName (payload :: rest)) =
      resolve config declarations chain (some inner) innerLegacy payload := by
  rw [resolve_handler, legal, other]
  rfl

variable (arguments : List TypeExpr)

theorem resolve_undeclared (other : name ≠ TypeExpr.readonlyName)
    (noHandler : Dispatch.ofWrapperName? name = none) (absent : declarations.find? name = none) :
    (resolve config declarations chain dispatch legacy (.reference name arguments)).run =
      ⟨[.undeclared name], .ok .unresolved⟩ := by
  cases arguments <;> rw [resolve, if_neg other, noHandler, absent] <;> rfl

theorem resolve_admitted (other : name ≠ TypeExpr.readonlyName)
    (noHandler : Dispatch.ofWrapperName? name = none)
    (found : declarations.find? name = some definition) (admitted : config.Admits chain name) :
    (resolve config declarations chain dispatch legacy (.reference name arguments)).run =
      let below :=
        (resolve config declarations (chain.enter name) dispatch legacy definition.unaliased).run
      ⟨.resolved name definition.unaliased.nodeKind :: below.log, below.value⟩ := by
  cases arguments <;> rw [resolve, if_neg other, noHandler, found] <;>
    simp only [dif_pos admitted, Extraction.run_note_bind]

theorem resolve_refused (other : name ≠ TypeExpr.readonlyName)
    (noHandler : Dispatch.ofWrapperName? name = none)
    (found : declarations.find? name = some definition) (refused : ¬config.Admits chain name) :
    (resolve config declarations chain dispatch legacy (.reference name arguments)).run =
      ⟨[], .error (chain.refusal config name)⟩ := by
  cases arguments <;> rw [resolve, if_neg other, noHandler, found] <;>
    simp only [dif_neg refused] <;> rfl

theorem resolve_notSource (noSource : isSource node = false) :
    (resolve config declarations chain dispatch legacy node).run =
      ⟨[], Heritage.blocked (.unnamed node.nodeKind)⟩ := by
  cases node with
  | object | interfaceDecl | reference => cases noSource
  | _ =>
      simp only [resolve]
      rfl

end Equations

/-- A property of every call of the walk follows from what each call makes of the one below it. -/
theorem resolve_induction (config : Config) (declarations : Declarations)
    {motive : Chain → Option Dispatch → Option String → TypeExpr → Prop}
    (interfaceDecl : ∀ chain dispatch legacy name own heritage,
      motive chain dispatch legacy (.interfaceDecl name own heritage))
    (object : ∀ chain dispatch legacy own, motive chain dispatch legacy (.object own))
    (missingArgument : ∀ chain dispatch legacy,
      motive chain dispatch legacy (.reference TypeExpr.readonlyName []))
    (readonly : ∀ chain dispatch legacy first rest, motive chain dispatch legacy first →
      motive chain dispatch legacy (.reference TypeExpr.readonlyName (first :: rest)))
    (noPayload : ∀ chain dispatch legacy (inner : Dispatch),
      motive chain dispatch legacy (.reference inner.wrapperName []))
    (legacyRefused : ∀ chain dispatch legacy (inner : Dispatch) payload rest error,
      legacyName inner.wrapperName (payload :: rest) = .error error →
        motive chain dispatch legacy (.reference inner.wrapperName (payload :: rest)))
    (nullish : ∀ chain dispatch legacy (inner : Dispatch) payload rest innerLegacy,
      legacyName inner.wrapperName (payload :: rest) = .ok innerLegacy →
        payload.isNullish = true →
          motive chain dispatch legacy (.reference inner.wrapperName (payload :: rest)))
    (payload : ∀ chain dispatch legacy (inner : Dispatch) payload rest innerLegacy,
      legacyName inner.wrapperName (payload :: rest) = .ok innerLegacy →
        payload.isNullish = false → motive chain (some inner) innerLegacy payload →
          motive chain dispatch legacy (.reference inner.wrapperName (payload :: rest)))
    (undeclared : ∀ chain dispatch legacy name arguments, name ≠ TypeExpr.readonlyName →
      Dispatch.ofWrapperName? name = none → declarations.find? name = none →
        motive chain dispatch legacy (.reference name arguments))
    (admitted : ∀ chain dispatch legacy name arguments definition, name ≠ TypeExpr.readonlyName →
      Dispatch.ofWrapperName? name = none → declarations.find? name = some definition →
        config.Admits chain name →
          motive (chain.enter name) dispatch legacy definition.unaliased →
            motive chain dispatch legacy (.reference name arguments))
    (refused : ∀ chain dispatch legacy name arguments definition, name ≠ TypeExpr.readonlyName →
      Dispatch.ofWrapperName? name = none → declarations.find? name = some definition →
        ¬config.Admits chain name → motive chain dispatch legacy (.reference name arguments))
    (notSource : ∀ chain dispatch legacy node, isSource node = false →
      motive chain dispatch legacy node)
    (chain : Chain) (dispatch : Option Dispatch) (legacy : Option String) (node : TypeExpr) :
    motive chain dispatch legacy node := by
  apply resolve.induct config declarations motive
  · exact interfaceDecl
  · exact object
  · exact missingArgument
  · exact readonly
  · intro chain dispatch legacy name _ inner wrapped
    rw [Dispatch.ofWrapperName?_eq_some_iff] at wrapped
    subst wrapped
    exact noPayload chain dispatch legacy inner
  · intro chain dispatch legacy name _ inner wrapped first rest inductionHypothesis
    rw [Dispatch.ofWrapperName?_eq_some_iff] at wrapped
    subst wrapped
    cases legal : legacyName inner.wrapperName (first :: rest) with
    | error error => exact legacyRefused chain dispatch legacy inner first rest error legal
    | ok innerLegacy =>
        cases missing : first.isNullish with
        | true => exact nullish chain dispatch legacy inner first rest innerLegacy legal missing
        | false =>
            exact payload chain dispatch legacy inner first rest innerLegacy legal missing
              (inductionHypothesis innerLegacy)
  · exact undeclared
  · intro chain dispatch legacy name arguments other noHandler definition
    exact admitted chain dispatch legacy name arguments definition other noHandler
  · intro chain dispatch legacy name arguments other noHandler definition
    exact refused chain dispatch legacy name arguments definition other noHandler
  · intro chain dispatch legacy node noInterface noObject noReference
    apply notSource
    cases node with
    | interfaceDecl name own heritage => exact (noInterface name own heritage rfl).elim
    | object own => exact (noObject own rfl).elim
    | reference name arguments => exact (noReference name arguments rfl).elim
    | _ => rfl

end Payload
end ComponentEvents
