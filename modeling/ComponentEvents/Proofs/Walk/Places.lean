/-
This file follows a walk from place to place up to the name that the guard refuses.
-/

import ComponentEvents.Proofs.Walk.Guard

namespace ComponentEvents

/-- A walk stands at a node with the chain of the names on its way. -/
structure Place where
  chain : Chain
  node : TypeExpr

namespace Place

/-- A walk goes from the first place to the second. -/
inductive Next (config : Config) (declarations : Declarations) : Place → Place → Prop
  | readonly (chain : Chain) (first : TypeExpr) (rest : List TypeExpr) :
      Next config declarations ⟨chain, .reference TypeExpr.readonlyName (first :: rest)⟩
        ⟨chain, first⟩
  | payload (chain : Chain) (dispatch : Dispatch) (payload : TypeExpr) (rest : List TypeExpr) :
      Next config declarations ⟨chain, .reference dispatch.wrapperName (payload :: rest)⟩
        ⟨chain, payload⟩
  | part (chain : Chain) {part : TypeExpr} {parts : List TypeExpr} (member : part ∈ parts) :
      Next config declarations ⟨chain, .intersection parts⟩ ⟨chain, part⟩
  | heritage (chain : Chain) (name : String) (own : List Member) {entry : TypeExpr}
      {heritage : List TypeExpr} (member : entry ∈ heritage) :
      Next config declarations ⟨chain, .interfaceDecl name own heritage⟩
        ⟨chain.mention name, entry⟩
  | enter {chain : Chain} {name : String} {definition : TypeExpr} (arguments : List TypeExpr)
      (found : declarations.find? name = some definition) (admitted : config.Admits chain name) :
      Next config declarations ⟨chain, .reference name arguments⟩
        ⟨chain.enter name, definition.unaliased⟩

variable {config : Config} {declarations : Declarations} {place below : Place}
  {error : ExtractionError}

/-- The walk comes from the place to a declared name that the guard refuses with the error. -/
def Refuses (config : Config) (declarations : Declarations) (place : Place)
    (error : ExtractionError) : Prop :=
  ∃ chain name arguments definition,
    Relation.ReflTransGen (Next config declarations) place ⟨chain, .reference name arguments⟩ ∧
      declarations.find? name = some definition ∧ ¬config.Admits chain name ∧
      error = chain.refusal config name

namespace Refuses

theorem here {chain : Chain} {name : String} {definition : TypeExpr} (arguments : List TypeExpr)
    (found : declarations.find? name = some definition) (refused : ¬config.Admits chain name) :
    Refuses config declarations ⟨chain, .reference name arguments⟩ (chain.refusal config name) :=
  ⟨chain, name, arguments, definition, .refl, found, refused, rfl⟩

theorem head (next : Next config declarations place below)
    (refuses : Refuses config declarations below error) :
    Refuses config declarations place error := by
  obtain ⟨chain, name, arguments, definition, path, refused⟩ := refuses
  exact ⟨chain, name, arguments, definition, path.head next, refused⟩

/-- An intersection is refused because of a part. -/
theorem exists_part {chain : Chain} {parts : List TypeExpr}
    (refuses : Refuses config declarations ⟨chain, .intersection parts⟩ error) :
    ∃ part ∈ parts, Refuses config declarations ⟨chain, part⟩ error := by
  obtain ⟨visited, name, arguments, definition, path, refused⟩ := refuses
  obtain ⟨⟨⟩⟩ | ⟨below, next, path⟩ := Relation.ReflTransGen.cases_head path
  cases next with
  | part _ member => exact ⟨_, member, visited, name, arguments, definition, path, refused⟩

/-- What every step keeps still holds where the name is refused. -/
theorem exists_of_kept {holds : Place → Prop} (refuses : Refuses config declarations place error)
    (start : holds place)
    (kept : ∀ {place below}, holds place → Next config declarations place below → holds below) :
    ∃ chain name arguments definition, holds ⟨chain, .reference name arguments⟩ ∧
      declarations.find? name = some definition ∧ ¬config.Admits chain name ∧
      error = chain.refusal config name := by
  obtain ⟨chain, name, arguments, definition, path, refused⟩ := refuses
  refine ⟨chain, name, arguments, definition, ?_, refused⟩
  generalize last : Place.mk chain (.reference name arguments) = reached at path
  clear last
  induction path with
  | refl => exact start
  | tail _ next inductionHypothesis => exact kept inductionHypothesis next

end Refuses

/-- The chain is one that the guard kept, and no interface stands inline below the node. -/
structure Sound (config : Config) (declarations : Declarations) (place : Place) : Prop where
  covered : declarations.Covers place.node
  kept : config.Keeps declarations place.chain

theorem Sound.next
    (covers : ∀ {name definition}, declarations.find? name = some definition →
      declarations.Covers definition.unaliased)
    (sound : Sound config declarations place) (next : Next config declarations place below) :
    Sound config declarations below := by
  obtain ⟨covered, kept⟩ := sound
  cases next with
  | readonly chain first rest => exact ⟨fun other leads => covered other (.readonly leads), kept⟩
  | payload chain dispatch payload rest => exact ⟨covered.payload, kept⟩
  | part chain member => exact ⟨fun other leads => covered other (.part member leads), kept⟩
  | heritage chain name own member =>
      exact ⟨fun other leads => covered other (.heritage member leads),
        kept.mention (covered _ (.here _))⟩
  | enter arguments found admitted => exact ⟨covers found, kept.enter found admitted⟩

end Place

variable {config : Config} {declarations : Declarations} {error : ExtractionError}

namespace Heritage

/-- A walk for members fails at a name that the guard refuses or lies in a node. -/
theorem members_refuses {chain : Chain} {node : TypeExpr}
    (failed : members config declarations chain node = .error error) :
    Place.Refuses config declarations ⟨chain, node⟩ error ∨
      ∃ obstacle, error = .ofCause (.obstacle obstacle) := by
  induction chain, node using members_induction config declarations with
  | object chain own =>
      rw [members_object] at failed
      cases failed
  | interfaceDecl chain name own heritage inductionHypothesis =>
      rw [members_interfaceDecl, Except.map_eq_error_iff] at failed
      refine (inductionHypothesis failed).imp_left fun refuses => ?_
      obtain ⟨entry, member, refuses⟩ := refuses.exists_part
      exact .head (.heritage chain name own member) refuses
  | noParts chain =>
      rw [members_noParts] at failed
      cases failed
  | parts chain node nodes firstHypothesis restHypothesis =>
      cases first : members config declarations chain node with
      | error error' =>
          rw [members_failedPart nodes first] at failed
          cases failed
          exact (firstHypothesis first).imp_left (.head (.part chain List.mem_cons_self))
      | ok value =>
          rw [members_parts nodes first, Except.map_eq_error_iff] at failed
          refine (restHypothesis failed).imp_left fun refuses => ?_
          obtain ⟨part, member, refuses⟩ := refuses.exists_part
          exact .head (.part chain (List.mem_cons_of_mem node member)) refuses
  | missingArgument chain =>
      rw [members_missingArgument] at failed
      cases failed
      exact Or.inr ⟨_, rfl⟩
  | readonly chain first rest inductionHypothesis =>
      rw [members_readonly] at failed
      exact (inductionHypothesis failed).imp_left (.head (.readonly chain first rest))
  | undeclared chain name arguments other absent =>
      rw [members_undeclared arguments other absent] at failed
      cases failed
      exact Or.inr ⟨_, rfl⟩
  | admitted chain name arguments definition other found admitted inductionHypothesis =>
      rw [members_admitted arguments other found admitted] at failed
      exact (inductionHypothesis failed).imp_left (.head (.enter arguments found admitted))
  | refused chain name arguments definition other found refused =>
      rw [members_refused arguments other found refused] at failed
      cases failed
      exact Or.inl (.here arguments found refused)
  | notSource chain node noSource =>
      rw [members_notSource noSource] at failed
      cases failed
      exact Or.inr ⟨_, rfl⟩

end Heritage

namespace Payload

/-- A walk for a payload fails at a name that the guard refuses or lies in a node. -/
theorem resolve_refuses {chain : Chain} {dispatch : Option Dispatch} {legacy : Option String}
    {node : TypeExpr}
    (failed : (resolve config declarations chain dispatch legacy node).run.value = .error error) :
    Place.Refuses config declarations ⟨chain, node⟩ error ∨
      ∃ obstacle, error = .ofCause (.obstacle obstacle) := by
  induction chain, dispatch, legacy, node using resolve_induction config declarations with
  | interfaceDecl chain dispatch legacy name own heritage =>
      rw [resolve_interfaceDecl, Except.map_eq_error_iff] at failed
      exact Heritage.members_refuses failed
  | object chain dispatch legacy own =>
      rw [resolve_object] at failed
      cases failed
  | missingArgument chain dispatch legacy =>
      rw [resolve_missingArgument] at failed
      cases failed
      exact Or.inr ⟨_, rfl⟩
  | readonly chain dispatch legacy first rest inductionHypothesis =>
      rw [resolve_readonly] at failed
      exact (inductionHypothesis failed).imp_left (.head (.readonly chain first rest))
  | noPayload chain dispatch legacy inner =>
      rw [resolve_noPayload] at failed
      cases failed
      exact Or.inr ⟨_, rfl⟩
  | legacyRefused chain dispatch legacy inner payload rest error' refused =>
      rw [resolve_legacyRefused dispatch legacy refused] at failed
      cases failed
      exact Or.inr (obstacle_of_legacyName refused)
  | nullish chain dispatch legacy inner payload rest innerLegacy legal missing =>
      rw [resolve_nullish dispatch legacy legal missing] at failed
      cases failed
  | payload chain dispatch legacy inner payload rest innerLegacy legal present
      inductionHypothesis =>
      rw [resolve_payload dispatch legacy legal present] at failed
      exact (inductionHypothesis failed).imp_left (.head (.payload chain inner payload rest))
  | undeclared chain dispatch legacy name arguments other noHandler absent =>
      rw [resolve_undeclared dispatch legacy arguments other noHandler absent] at failed
      cases failed
  | admitted chain dispatch legacy name arguments definition other noHandler found admitted
      inductionHypothesis =>
      rw [resolve_admitted dispatch legacy arguments other noHandler found admitted] at failed
      exact (inductionHypothesis failed).imp_left (.head (.enter arguments found admitted))
  | refused chain dispatch legacy name arguments definition other noHandler found refused =>
      rw [resolve_refused dispatch legacy arguments other noHandler found refused] at failed
      cases failed
      exact Or.inl (.here arguments found refused)
  | notSource chain dispatch legacy node noSource =>
      rw [resolve_notSource dispatch legacy noSource] at failed
      cases failed
      exact Or.inr ⟨_, rfl⟩

end Payload
end ComponentEvents
