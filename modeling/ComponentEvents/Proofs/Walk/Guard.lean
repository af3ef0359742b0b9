/-
This file relates the walk with the guard to the walk without it.
-/

import ComponentEvents.Proofs.Walk.Entered

namespace ComponentEvents

/-- A loop is refused by the guard; any other cause lies in a node. -/
def ExtractionError.IsLoop (error : ExtractionError) : Prop :=
  ∃ reason chain, error.cause = .loop reason chain

theorem ExtractionError.not_isLoop_obstacle (obstacle : Obstacle) :
    ¬(ofCause (.obstacle obstacle)).IsLoop := by
  intro loop
  obtain ⟨reason, chain, same⟩ := loop
  cases same

theorem Chain.isLoop_refusal (config : Config) (chain : Chain) (name : String) :
    (chain.refusal config name).IsLoop :=
  ⟨_, _, rfl⟩

theorem Except.map_eq_error_iff {ε α β : Type} {outcome : Except ε α} {change : α → β} {error : ε} :
    outcome.map change = .error error ↔ outcome = .error error := by
  cases outcome <;> simp [Except.map]

variable {config : Config} {declarations : Declarations}

/-- A chain of distinct declared names has room for a declared name that is not in it. -/
theorem Chain.length_lt_limit {chain : Chain} {name : String} {definition : TypeExpr}
    (room : declarations.names.length ≤ config.aliasLimit) (distinct : chain.Nodup)
    (declared : ∀ other ∈ chain, ∃ definition, declarations.find? other = some definition)
    (found : declarations.find? name = some definition) (fresh : name ∉ chain) :
    chain.length < config.aliasLimit := by
  have bound : (chain.enter name).length ≤ declarations.names.length := by
    apply Declarations.length_le_names (nodup_enter distinct fresh)
    intro other member
    obtain member | rfl := mem_enter.mp member
    · exact declared other member
    · exact ⟨definition, found⟩
  rw [length_enter] at bound
  omega

namespace Heritage

/-- The walk without a guard ends where the guard refuses nothing. -/
theorem collects_members (chain : Chain) (node : TypeExpr)
    (noLoop : ∀ error, members config declarations chain node = .error error → ¬error.IsLoop) :
    Collects declarations node (members config declarations chain node) := by
  induction chain, node using members_induction config declarations with
  | object chain own =>
      rw [members_object]
      exact .object own
  | interfaceDecl chain name own heritage inductionHypothesis =>
      rw [members_interfaceDecl] at noLoop ⊢
      exact .interfaceDecl name own (inductionHypothesis fun error failed =>
        noLoop error (Except.map_eq_error_iff.mpr failed))
  | noParts chain =>
      rw [members_noParts]
      exact .noParts
  | parts chain node nodes firstHypothesis restHypothesis =>
      cases first : members config declarations chain node with
      | error error =>
          rw [members_failedPart nodes first] at noLoop ⊢
          rw [first] at firstHypothesis
          exact .failedPart nodes (firstHypothesis noLoop)
      | ok value =>
          rw [members_parts nodes first] at noLoop ⊢
          rw [first] at firstHypothesis
          have collected := firstHypothesis fun error failed => by cases failed
          exact .parts collected (restHypothesis fun error failed =>
            noLoop error (Except.map_eq_error_iff.mpr failed))
  | missingArgument chain =>
      rw [members_missingArgument]
      exact .missingArgument
  | readonly chain first rest inductionHypothesis =>
      rw [members_readonly] at noLoop ⊢
      exact .readonly rest (inductionHypothesis noLoop)
  | undeclared chain name arguments other absent =>
      rw [members_undeclared arguments other absent]
      exact .undeclared arguments other absent
  | admitted chain name arguments definition other found admitted inductionHypothesis =>
      rw [members_admitted arguments other found admitted] at noLoop ⊢
      exact .declared arguments other found (inductionHypothesis noLoop)
  | refused chain name arguments definition other found refused =>
      rw [members_refused arguments other found refused] at noLoop
      exact (noLoop _ rfl (chain.isLoop_refusal config name)).elim
  | notSource chain node noSource =>
      rw [members_notSource noSource]
      exact .notSource noSource

/-- The guard refuses a name on a walk that would not end. -/
theorem exists_loop_of_endless (config : Config) {node : TypeExpr} (chain : Chain)
    (endless : ¬∃ outcome, Collects declarations node outcome) :
    ∃ error, members config declarations chain node = .error error ∧ error.IsLoop := by
  by_contra noLoop
  push Not at noLoop
  exact endless ⟨_, collects_members chain node noLoop⟩

theorem collects_of_ok {chain : Chain} {node : TypeExpr} {found : List Member}
    (succeeded : members config declarations chain node = .ok found) :
    Collects declarations node (.ok found) := by
  rw [← succeeded]
  apply collects_members
  intro error failed
  cases succeeded.symm.trans failed

/-- Without a guard only a node can be the cause of a failure. -/
theorem Collects.obstacle {node : TypeExpr} {error : ExtractionError}
    (collected : Collects declarations node (.error error)) :
    ∃ obstacle, error = .ofCause (.obstacle obstacle) := by
  generalize failed : Except.error error = outcome at collected
  induction collected with
  | object | noParts => cases failed
  | missingArgument | undeclared | notSource =>
      cases failed
      exact ⟨_, rfl⟩
  | interfaceDecl name own collected inductionHypothesis =>
      exact inductionHypothesis (Except.map_eq_error_iff.mp failed.symm).symm
  | parts collected collectedRest firstHypothesis restHypothesis =>
      exact restHypothesis (Except.map_eq_error_iff.mp failed.symm).symm
  | failedPart nodes collected inductionHypothesis => exact inductionHypothesis failed
  | readonly rest collected inductionHypothesis => exact inductionHypothesis failed
  | declared arguments other found collected inductionHypothesis =>
      exact inductionHypothesis failed

/-- On a walk that ends the guard refuses nothing while the limit has room for all names. -/
theorem Collects.members_eq (closed : declarations.Closed)
    (room : declarations.names.length ≤ config.aliasLimit) {node : TypeExpr}
    {outcome : Except ExtractionError (List Member)}
    (collected : Collects declarations node outcome) {chain : Chain} (distinct : chain.Nodup)
    (reached : Reached (Calls declarations) declarations chain node) :
    members config declarations chain node = outcome := by
  induction collected generalizing chain with
  | object own => exact members_object config declarations chain own
  | interfaceDecl name own collected inductionHypothesis =>
      rw [members_interfaceDecl]
      rw [inductionHypothesis (Chain.nodup_mention name distinct) (reached.mention closed)]
  | noParts => exact members_noParts config declarations chain
  | @failedPart node _ nodes collected inductionHypothesis =>
      have call : Calls declarations _ _ := .part node nodes
      exact members_failedPart nodes (inductionHypothesis distinct (reached.tail closed call call))
  | @parts node nodes _ _ collected collectedRest firstHypothesis restHypothesis =>
      have call : Calls declarations _ _ := .part node nodes
      have callRest : Calls declarations _ _ := .parts nodes collected
      rw [members_parts nodes (firstHypothesis distinct (reached.tail closed call call))]
      rw [restHypothesis distinct (reached.tail closed callRest callRest)]
  | missingArgument => exact members_missingArgument config declarations chain
  | @readonly first _ rest collected inductionHypothesis =>
      have call : Calls declarations _ _ := .reference (.readonly first rest)
      rw [members_readonly]
      exact inductionHypothesis distinct (reached.tail closed call call)
  | undeclared arguments other absent => exact members_undeclared arguments other absent
  | @declared name _ _ arguments other found collected inductionHypothesis =>
      have call : Calls declarations _ _ := .reference (.declared arguments other found)
      have ends := (Collects.declared arguments other found collected).ends
      -- A second visit would put the node on a cycle, where the walk does not end.
      have fresh : name ∉ chain := fun visited =>
        not_ends_of_cycle (reached.cycle found call visited) ends
      have length := Chain.length_lt_limit room distinct reached.declared found fresh
      rw [members_admitted arguments other found ⟨fun visited => fresh visited.2, length⟩]
      exact inductionHypothesis (Chain.nodup_enter distinct fresh) (reached.enter closed found call)
  | notSource noSource => exact members_notSource noSource

end Heritage

namespace Payload

/-- The walk without a guard ends where the guard refuses nothing. -/
theorem resolves_resolve (chain : Chain) (dispatch : Option Dispatch) (legacy : Option String)
    (node : TypeExpr)
    (noLoop : ∀ error, (resolve config declarations chain dispatch legacy node).run.value =
      .error error → ¬error.IsLoop) :
    Resolves declarations dispatch legacy node
      (resolve config declarations chain dispatch legacy node).run.value := by
  induction chain, dispatch, legacy, node using resolve_induction config declarations with
  | interfaceDecl chain dispatch legacy name own heritage =>
      rw [resolve_interfaceDecl] at noLoop ⊢
      exact .interfaceDecl dispatch legacy (Heritage.collects_members chain _ fun error failed =>
        noLoop error (Except.map_eq_error_iff.mpr failed))
  | object chain dispatch legacy own =>
      rw [resolve_object]
      exact .object dispatch legacy own
  | missingArgument chain dispatch legacy =>
      rw [resolve_missingArgument]
      exact .missingArgument dispatch legacy
  | readonly chain dispatch legacy first rest inductionHypothesis =>
      rw [resolve_readonly] at noLoop ⊢
      exact .readonly rest (inductionHypothesis noLoop)
  | noPayload chain dispatch legacy inner =>
      rw [resolve_noPayload]
      exact .noPayload dispatch legacy inner
  | legacyRefused chain dispatch legacy inner payload rest error refused =>
      rw [resolve_legacyRefused dispatch legacy refused]
      exact .legacyRefused dispatch legacy refused
  | nullish chain dispatch legacy inner payload rest innerLegacy legal missing =>
      rw [resolve_nullish dispatch legacy legal missing]
      exact .nullish dispatch legacy legal missing
  | payload chain dispatch legacy inner payload rest innerLegacy legal present
      inductionHypothesis =>
      rw [resolve_payload dispatch legacy legal present] at noLoop ⊢
      exact .payload dispatch legacy legal present (inductionHypothesis noLoop)
  | undeclared chain dispatch legacy name arguments other noHandler absent =>
      rw [resolve_undeclared dispatch legacy arguments other noHandler absent]
      exact .undeclared dispatch legacy arguments other noHandler absent
  | admitted chain dispatch legacy name arguments definition other noHandler found admitted
      inductionHypothesis =>
      rw [resolve_admitted dispatch legacy arguments other noHandler found admitted] at noLoop ⊢
      exact .declared arguments other noHandler found (inductionHypothesis noLoop)
  | refused chain dispatch legacy name arguments definition other noHandler found refused =>
      rw [resolve_refused dispatch legacy arguments other noHandler found refused] at noLoop
      exact (noLoop _ rfl (chain.isLoop_refusal config name)).elim
  | notSource chain dispatch legacy node noSource =>
      rw [resolve_notSource dispatch legacy noSource]
      exact .notSource dispatch legacy noSource

/-- The guard refuses a name on a walk that would not end. -/
theorem exists_loop_of_endless (config : Config) {dispatch : Option Dispatch}
    {legacy : Option String} {node : TypeExpr} (chain : Chain)
    (endless : ¬∃ outcome, Resolves declarations dispatch legacy node outcome) :
    ∃ error, (resolve config declarations chain dispatch legacy node).run.value = .error error ∧
      error.IsLoop := by
  by_contra noLoop
  push Not at noLoop
  exact endless ⟨_, resolves_resolve chain dispatch legacy node noLoop⟩

/-- A legacy name that is no text lies in a node. -/
theorem obstacle_of_legacyName {name : String} {arguments : List TypeExpr} {error : ExtractionError}
    (refused : legacyName name arguments = .error error) :
    ∃ obstacle, error = .ofCause (.obstacle obstacle) := by
  unfold legacyName at refused
  split at refused
  · split at refused
    · cases refused
    · cases refused
      exact ⟨_, rfl⟩
  · cases refused

/-- Without a guard only a node can be the cause of a failure. -/
theorem Resolves.obstacle {dispatch : Option Dispatch} {legacy : Option String} {node : TypeExpr}
    {error : ExtractionError}
    (resolved : Resolves declarations dispatch legacy node (.error error)) :
    ∃ obstacle, error = .ofCause (.obstacle obstacle) := by
  generalize failed : Except.error error = outcome at resolved
  induction resolved with
  | object | nullish | undeclared => cases failed
  | missingArgument | noPayload | notSource =>
      cases failed
      exact ⟨_, rfl⟩
  | interfaceDecl dispatch legacy collected =>
      have failed := Except.map_eq_error_iff.mp failed.symm
      subst failed
      exact collected.obstacle
  | legacyRefused dispatch legacy refused =>
      cases failed
      exact obstacle_of_legacyName refused
  | readonly rest resolved inductionHypothesis => exact inductionHypothesis failed
  | payload dispatch legacy legal present resolved inductionHypothesis =>
      exact inductionHypothesis failed
  | declared arguments other noHandler found resolved inductionHypothesis =>
      exact inductionHypothesis failed

/-- On a walk that ends the guard refuses nothing while the limit has room for all names. A handler
is met only before the first name. -/
theorem Resolves.resolve_eq (closed : declarations.Closed)
    (room : declarations.names.length ≤ config.aliasLimit) {dispatch : Option Dispatch}
    {legacy : Option String} {node : TypeExpr} {outcome : Except ExtractionError Resolution}
    (resolved : Resolves declarations dispatch legacy node outcome) {chain : Chain}
    (distinct : chain.Nodup)
    (reached : Heritage.Reached (Heritage.Follows declarations) declarations chain node)
    (plain : chain = [] ∨ node.Plain) :
    (resolve config declarations chain dispatch legacy node).run.value = outcome := by
  induction resolved generalizing chain with
  | interfaceDecl dispatch legacy collected =>
      rw [resolve_interfaceDecl, collected.members_eq closed room distinct reached.calls]
  | object dispatch legacy own => rw [resolve_object]
  | missingArgument dispatch legacy => rw [resolve_missingArgument]
  | @readonly _ _ first _ rest resolved inductionHypothesis =>
      have follows : Heritage.Follows declarations _ _ := .readonly first rest
      rw [resolve_readonly]
      exact inductionHypothesis distinct (reached.tail closed follows (.reference follows))
        (plain.imp_right (Heritage.plain_of_follows closed · follows))
  | noPayload dispatch legacy inner => rw [resolve_noPayload]
  | legacyRefused dispatch legacy refused => rw [resolve_legacyRefused dispatch legacy refused]
  | nullish dispatch legacy legal missing => rw [resolve_nullish dispatch legacy legal missing]
  | @payload inner payload rest _ _ dispatch legacy legal present resolved inductionHypothesis =>
      rw [resolve_payload dispatch legacy legal present]
      obtain rfl | plain := plain
      · exact inductionHypothesis distinct (.nil reached.covered.payload) (Or.inl rfl)
      · cases plain.noHandler.symm.trans (Dispatch.ofWrapperName?_wrapperName inner)
  | undeclared dispatch legacy arguments other noHandler absent =>
      rw [resolve_undeclared dispatch legacy arguments other noHandler absent]
  | @declared dispatch legacy name _ _ arguments other noHandler found resolved
      inductionHypothesis =>
      have follows : Heritage.Follows declarations _ _ := .declared arguments other found
      -- A second visit would put the node on a cycle, where the walk has no outcome.
      have fresh : name ∉ chain := by
        intro visited
        have plain := plain.resolve_left (List.ne_nil_of_mem visited)
        exact (Resolves.declared arguments other noHandler found resolved).not_cycle closed plain
          (reached.cycle found follows visited)
      have length := Chain.length_lt_limit room distinct reached.declared found fresh
      rw [resolve_admitted dispatch legacy arguments other noHandler found
        ⟨fun visited => fresh visited.2, length⟩]
      exact inductionHypothesis (Chain.nodup_enter distinct fresh)
        (reached.enter closed found follows) (Or.inr (closed.plain found))
  | notSource dispatch legacy noSource => rw [resolve_notSource dispatch legacy noSource]

end Payload
end ComponentEvents
