/-
This file walks to a payload by steps that take what is there, and shows that it is.
-/

import ComponentEvents.Proofs.Access.Basic
import ComponentEvents.Proofs.Walk.Members
import ComponentEvents.Proofs.Walk.Payload

namespace ComponentEvents.Unchecked

/-- An argument is asked for before the first one is taken. -/
def firstArgument (name : String) (arguments : List TypeExpr) :
    Unchecked {argument : TypeExpr // argument ∈ arguments} :=
  if arguments.isEmpty then fail (.obstacle (.missingArgument name)) else argument arguments 0

/-- A second argument is looked for before it is taken. -/
def legacyName (name : String) (arguments : List TypeExpr) : Unchecked (Option String) :=
  if arguments.length < 2 then return none
  else do
    let second ← argument arguments 1
    match second.val.stringLiteral? with
    | some legacy => return some legacy
    | none => fail (.obstacle (.legacyNameNotText (TypeExpr.text (.reference name arguments))))

mutual

/-- A definition is taken where the name is declared and admitted. -/
def members (config : Config) (declarations : Declarations) (chain : Chain) :
    TypeExpr → Unchecked (List Member)
  | .object own => return own
  | .interfaceDecl name own heritage => do
      let inherited ← membersOfAll config declarations (chain.mention name) heritage
      return inherited ++ own
  | .intersection parts => membersOfAll config declarations chain parts
  | .reference name arguments =>
      if name = TypeExpr.readonlyName then do
        let first ← firstArgument name arguments
        members config declarations chain first.val
      else if (declarations.find? name).isNone then fail (.obstacle (.undeclared name))
      else if _admitted : config.Admits chain name then do
        let found ← definition declarations name
        members config declarations (chain.enter name) found.unaliased
      else monadLift (throw (chain.refusal config name) : Extraction (List Member))
  | node => fail (.obstacle (.notFlattenable node.nodeKind))
termination_by node => (config.aliasLimit - chain.length, sizeOf node)
decreasing_by
  · apply Prod.Lex.right'
    · have longer := Chain.length_le_mention chain name
      omega
    · simp only [TypeExpr.interfaceDecl.sizeOf_spec]
      omega
  · exact Prod.Lex.right _ (by simp only [TypeExpr.intersection.sizeOf_spec]; omega)
  · apply Prod.Lex.right
    have smaller := List.sizeOf_lt_of_mem first.property
    simp only [TypeExpr.reference.sizeOf_spec]
    omega
  · exact Prod.Lex.left _ _ (Chain.remaining_enter _admitted)

def membersOfAll (config : Config) (declarations : Declarations) (chain : Chain) :
    List TypeExpr → Unchecked (List Member)
  | [] => return []
  | node :: nodes => do
      let first ← members config declarations chain node
      let rest ← membersOfAll config declarations chain nodes
      return first ++ rest
termination_by nodes => (config.aliasLimit - chain.length, sizeOf nodes)
decreasing_by
  · exact Prod.Lex.right _ (by simp only [List.cons.sizeOf_spec]; omega)
  · exact Prod.Lex.right _ (by simp only [List.cons.sizeOf_spec]; omega)

end

/-- The payload is taken before the legacy name is read. -/
def resolve (config : Config) (declarations : Declarations) (chain : Chain)
    (dispatch : Option Dispatch) (legacy : Option String) (node : TypeExpr) :
    Unchecked Resolution :=
  match node with
  | .interfaceDecl name own heritage => do
      let found ← members config declarations chain (.interfaceDecl name own heritage)
      return ⟨some found, dispatch, legacy⟩
  | .object own => return ⟨some own, dispatch, legacy⟩
  | .reference name arguments =>
      if name = TypeExpr.readonlyName then do
        let first ← firstArgument name arguments
        resolve config declarations chain dispatch legacy first.val
      else
        match Dispatch.ofWrapperName? name with
        | some inner => do
            let payload ← firstArgument name arguments
            let innerLegacy ← legacyName name arguments
            if payload.val.isNullish then return ⟨some [], some inner, innerLegacy⟩
            else resolve config declarations chain (some inner) innerLegacy payload.val
        | none =>
            if (declarations.find? name).isNone then do
              monadLift (Extraction.note (.undeclared name))
              return .unresolved
            else if _admitted : config.Admits chain name then do
              let found ← definition declarations name
              monadLift (Extraction.note (.resolved name found.unaliased.nodeKind))
              resolve config declarations (chain.enter name) dispatch legacy found.unaliased
            else monadLift (throw (chain.refusal config name) : Extraction Resolution)
  | other => fail (.obstacle (.unnamed other.nodeKind))
termination_by (config.aliasLimit - chain.length, sizeOf node)
decreasing_by
  · apply Prod.Lex.right
    have smaller := List.sizeOf_lt_of_mem first.property
    simp only [TypeExpr.reference.sizeOf_spec]
    omega
  · apply Prod.Lex.right
    have smaller := List.sizeOf_lt_of_mem payload.property
    simp only [TypeExpr.reference.sizeOf_spec]
    omega
  · exact Prod.Lex.left _ _ (Chain.remaining_enter _admitted)

variable {config : Config} {declarations : Declarations}

theorem firstArgument_nil (name : String) :
    firstArgument name [] = fail (.obstacle (.missingArgument name)) := rfl

theorem firstArgument_cons (name : String) (first : TypeExpr) (rest : List TypeExpr) :
    firstArgument name (first :: rest) = pure ⟨first, List.mem_cons_self⟩ := rfl

theorem legacyName_eq (name : String) (arguments : List TypeExpr) :
    legacyName name arguments =
      monadLift (ofExcept (Payload.legacyName name arguments) : Extraction _) := by
  match arguments with
  | [] => rfl
  | [_] => rfl
  | first :: second :: rest =>
      rw [legacyName, if_neg (by simp), argument_second, pure_bind, Payload.legacyName]
      cases second.stringLiteral? <;> rfl

/-- No step of a walk for members takes what is missing. -/
theorem members_eq (chain : Chain) (node : TypeExpr) :
    members config declarations chain node =
      monadLift (ofExcept (Heritage.members config declarations chain node) : Extraction _) := by
  induction chain, node using Heritage.members_induction config declarations with
  | object chain own =>
      rw [members, Heritage.members_object]
      rfl
  | interfaceDecl chain name own heritage inductionHypothesis =>
      rw [members] at inductionHypothesis
      rw [members, inductionHypothesis, Heritage.members_interfaceDecl]
      cases Heritage.members config declarations (chain.mention name) (.intersection heritage) <;>
        rfl
  | noParts chain =>
      rw [members, membersOfAll, Heritage.members_noParts]
      rfl
  | parts chain node nodes firstHypothesis restHypothesis =>
      rw [members] at restHypothesis
      rw [members, membersOfAll, firstHypothesis, restHypothesis]
      cases first : Heritage.members config declarations chain node with
      | error error =>
          rw [Heritage.members_failedPart nodes first]
          rfl
      | ok value =>
          rw [Heritage.members_parts nodes first]
          cases Heritage.members config declarations chain (.intersection nodes) <;> rfl
  | missingArgument chain =>
      rw [members, if_pos rfl, Heritage.members_missingArgument]
      rfl
  | readonly chain first rest inductionHypothesis =>
      rw [members, if_pos rfl, firstArgument_cons, pure_bind, inductionHypothesis,
        Heritage.members_readonly]
  | undeclared chain name arguments other absent =>
      rw [members, if_neg other, absent, Heritage.members_undeclared arguments other absent]
      rfl
  | admitted chain name arguments definition other found admitted inductionHypothesis =>
      rw [members, if_neg other, if_neg (by simp [found]), dif_pos admitted,
        definition_found found, pure_bind, inductionHypothesis,
        Heritage.members_admitted arguments other found admitted]
  | refused chain name arguments definition other found refused =>
      rw [members, if_neg other, if_neg (by simp [found]), dif_neg refused,
        Heritage.members_refused arguments other found refused]
      rfl
  | notSource chain node noSource =>
      rw [Heritage.members_notSource noSource]
      cases node with
      | object | interfaceDecl | intersection | reference => cases noSource
      | _ =>
          simp only [members]
          rfl

theorem resolve_handler (chain : Chain) (dispatch : Option Dispatch) (legacy : Option String)
    (inner : Dispatch) (payload : TypeExpr) (rest : List TypeExpr) :
    resolve config declarations chain dispatch legacy
        (.reference inner.wrapperName (payload :: rest)) =
      (monadLift (ofExcept (Payload.legacyName inner.wrapperName (payload :: rest)) :
        Extraction _) >>= fun innerLegacy =>
          if payload.isNullish then return ⟨some [], some inner, innerLegacy⟩
          else resolve config declarations chain (some inner) innerLegacy payload) := by
  rw [resolve, if_neg inner.wrapperName_ne_readonlyName, Dispatch.ofWrapperName?_wrapperName,
    firstArgument_cons, ← legacyName_eq]
  rfl

/-- No step of a walk for a payload takes what is missing. -/
theorem resolve_eq (chain : Chain) (dispatch : Option Dispatch) (legacy : Option String)
    (node : TypeExpr) :
    resolve config declarations chain dispatch legacy node =
      monadLift (Payload.resolve config declarations chain dispatch legacy node) := by
  induction chain, dispatch, legacy, node using Payload.resolve_induction config declarations with
  | interfaceDecl chain dispatch legacy name own heritage =>
      rw [resolve, members_eq, Payload.resolve, monadLift_bind]
      simp only [monadLift_pure]
  | object chain dispatch legacy own =>
      rw [resolve, Payload.resolve, monadLift_pure]
  | missingArgument chain dispatch legacy =>
      rw [resolve, if_pos rfl, firstArgument_nil, Payload.resolve, if_pos rfl]
      rfl
  | readonly chain dispatch legacy first rest inductionHypothesis =>
      rw [resolve, if_pos rfl, firstArgument_cons, pure_bind, inductionHypothesis,
        Payload.resolve_readonly]
  | noPayload chain dispatch legacy inner =>
      rw [resolve, if_neg inner.wrapperName_ne_readonlyName, firstArgument_nil,
        Dispatch.ofWrapperName?_wrapperName, Payload.resolve,
        if_neg inner.wrapperName_ne_readonlyName, Dispatch.ofWrapperName?_wrapperName]
      rfl
  | legacyRefused chain dispatch legacy inner payload rest error refused =>
      rw [resolve_handler, Payload.resolve_handler, refused]
      rfl
  | nullish chain dispatch legacy inner payload rest innerLegacy legal missing =>
      rw [resolve_handler, Payload.resolve_handler, legal, missing]
      rfl
  | payload chain dispatch legacy inner payload rest innerLegacy legal present
      inductionHypothesis =>
      rw [resolve_handler, legal, present, Payload.resolve_payload _ _ legal present,
        ← inductionHypothesis]
      rfl
  | undeclared chain dispatch legacy name arguments other noHandler absent =>
      cases arguments <;>
        rw [resolve, if_neg other, noHandler, Payload.resolve, if_neg other, noHandler, absent] <;>
        rfl
  | admitted chain dispatch legacy name arguments definition other noHandler found admitted
      inductionHypothesis =>
      cases arguments <;>
        rw [resolve, if_neg other, noHandler, Payload.resolve, if_neg other, noHandler, found] <;>
        simp only [Option.isNone_some, Bool.false_eq_true, if_false, dif_pos admitted,
          definition_found found, pure_bind, inductionHypothesis, monadLift_bind]
  | refused chain dispatch legacy name arguments definition other noHandler found refused =>
      cases arguments <;>
        rw [resolve, if_neg other, noHandler, Payload.resolve, if_neg other, noHandler, found] <;>
        simp only [Option.isNone_some, Bool.false_eq_true, if_false, dif_neg refused]
  | notSource chain dispatch legacy node noSource =>
      cases node with
      | object | interfaceDecl | reference => cases noSource
      | _ =>
          simp only [resolve, Payload.resolve]
          rfl

end ComponentEvents.Unchecked
