/-
This file compares the walk that detects cycles with the walk that does not.
-/

import ComponentEvents.Proofs.Walk.Refusal

namespace ComponentEvents

/-- This is the configuration with cycles detected or not. -/
def Config.withDetection (config : Config) (detects : Bool) : Config :=
  { config with detectCycles := detects }

/-- One computation came back to a name, and the other one went on until the limit. -/
structure Parted {α : Type} (detecting ignoring : Except ExtractionError α) : Prop where
  cyclic : ∃ error chain, detecting = .error error ∧ error.cause = .loop .cyclic chain
  tooDeep : ∃ error limit chain, ignoring = .error error ∧
    error.cause = .loop (.tooDeep limit) chain

theorem Parted.map {α β : Type} {detecting ignoring : Except ExtractionError α}
    (parted : Parted detecting ignoring) (change change' : α → β) :
    Parted (detecting.map change) (ignoring.map change') := by
  obtain ⟨⟨error, chain, rfl, same⟩, error', limit, chain', rfl, same'⟩ := parted
  exact ⟨⟨error, chain, rfl, same⟩, error', limit, chain', rfl, same'⟩

variable {α : Type} {config : Config} {declarations : Declarations}

/-- Detection refuses the names in the chain and no others. -/
theorem Config.admits_detecting_iff {chain : Chain} {name : String} :
    (config.withDetection true).Admits chain name ↔
      name ∉ chain ∧ (config.withDetection false).Admits chain name := by
  simp [Admits, withDetection]

theorem Chain.refusal_ignoring (chain : Chain) (name : String) :
    chain.refusal (config.withDetection false) name =
      .ofCause (.loop (.tooDeep config.aliasLimit) (chain.enter name)) := by
  simp [refusal, Config.withDetection]

theorem Chain.refusal_visited {chain : Chain} {name : String} (visited : name ∈ chain) :
    chain.refusal (config.withDetection true) name =
      .ofCause (.loop .cyclic (chain.enter name)) := by
  simp [refusal, Config.withDetection, visited]

/-- Where both walks refuse a name, they tell of the limit alike or the chain holds the name. -/
theorem Chain.refusal_detection (config : Config) (chain : Chain) (name : String) :
    chain.refusal (config.withDetection true) name =
        chain.refusal (config.withDetection false) name ∨
      Parted (.error (chain.refusal (config.withDetection true) name) : Except _ α)
        (.error (chain.refusal (config.withDetection false) name)) := by
  by_cases visited : name ∈ chain
  · rw [refusal_visited visited, refusal_ignoring]
    exact Or.inr ⟨⟨_, _, rfl, rfl⟩, _, _, _, rfl, rfl⟩
  · refine Or.inl ?_
    simp [refusal, Config.withDetection, visited]

/-- Where cycles are not detected, every refusal tells of the limit. -/
theorem Config.Refused.tooDeep {error : ExtractionError}
    (refused : (config.withDetection false).Refused declarations error) :
    ∃ chain, error = .ofCause (.loop (.tooDeep config.aliasLimit) chain) := by
  obtain ⟨visited, name, definition, kept, found, refused, rfl⟩ := refused
  exact ⟨_, visited.refusal_ignoring name⟩

theorem Config.Keeps.ignoring {chain : Chain}
    (declared : ∀ name ∈ chain, ∃ definition, declarations.find? name = some definition) :
    (config.withDetection false).Keeps declarations chain :=
  ⟨declared, fun detects => by cases detects⟩

namespace Heritage

/-- Without detection a walk around a cycle goes on until the limit. -/
theorem tooDeep_of_cycle (closed : declarations.Closed) {chain : Chain} {node : TypeExpr}
    (reached : Reached (Calls declarations) declarations chain node)
    (cycle : Relation.TransGen (Calls declarations) node node) :
    ∃ chain', members (config.withDetection false) declarations chain node =
      .error (.ofCause (.loop (.tooDeep config.aliasLimit) chain')) := by
  have endless : ¬∃ outcome, Collects declarations node outcome := by
    intro ends
    obtain ⟨outcome, collected⟩ := ends
    exact not_ends_of_cycle cycle collected.ends
  obtain ⟨error, failed, refused⟩ :=
    refused_of_endless closed reached.covered (.ignoring reached.declared) endless
  obtain ⟨chain', rfl⟩ := refused.tooDeep
  exact ⟨chain', failed⟩

/-- Detection changes the walk for members only where both walks are refused. -/
theorem members_detection (closed : declarations.Closed) {chain : Chain} {node : TypeExpr}
    (reached : Reached (Calls declarations) declarations chain node) :
    members (config.withDetection true) declarations chain node =
        members (config.withDetection false) declarations chain node ∨
      Parted (members (config.withDetection true) declarations chain node)
        (members (config.withDetection false) declarations chain node) := by
  induction chain, node using members_induction (config.withDetection false) declarations with
  | object chain own =>
      rw [members_object, members_object]
      exact Or.inl rfl
  | interfaceDecl chain name own heritage inductionHypothesis =>
      rw [members_interfaceDecl, members_interfaceDecl]
      obtain same | parted := inductionHypothesis (reached.mention closed)
      · rw [same]
        exact Or.inl rfl
      · exact Or.inr (parted.map _ _)
  | noParts chain =>
      rw [members_noParts, members_noParts]
      exact Or.inl rfl
  | parts chain node nodes firstHypothesis restHypothesis =>
      have call : Calls declarations _ _ := .part node nodes
      obtain same | parted := firstHypothesis (reached.tail closed call call)
      · cases first : members (config.withDetection false) declarations chain node with
        | error error =>
            rw [members_failedPart nodes first, members_failedPart nodes (same.trans first)]
            exact Or.inl rfl
        | ok value =>
            have callRest : Calls declarations _ _ := .parts nodes (collects_of_ok first)
            rw [members_parts nodes first, members_parts nodes (same.trans first)]
            obtain same | parted := restHypothesis (reached.tail closed callRest callRest)
            · rw [same]
              exact Or.inl rfl
            · exact Or.inr (parted.map _ _)
      · obtain ⟨⟨error, chain, failed, loop⟩, error', limit, chain', failed', loop'⟩ := parted
        rw [members_failedPart nodes failed, members_failedPart nodes failed']
        exact Or.inr ⟨⟨error, chain, rfl, loop⟩, error', limit, chain', rfl, loop'⟩
  | missingArgument chain =>
      rw [members_missingArgument, members_missingArgument]
      exact Or.inl rfl
  | readonly chain first rest inductionHypothesis =>
      have call : Calls declarations _ _ := .reference (.readonly first rest)
      rw [members_readonly, members_readonly]
      exact inductionHypothesis (reached.tail closed call call)
  | undeclared chain name arguments other absent =>
      rw [members_undeclared arguments other absent, members_undeclared arguments other absent]
      exact Or.inl rfl
  | admitted chain name arguments definition other found admitted inductionHypothesis =>
      have call : Calls declarations _ _ := .reference (.declared arguments other found)
      by_cases visited : name ∈ chain
      · have refused : ¬(config.withDetection true).Admits chain name := by
          rw [Config.admits_detecting_iff]
          exact fun admits => admits.1 visited
        rw [members_refused arguments other found refused, Chain.refusal_visited visited]
        -- The other walk enters the name again, and from there it only comes back to it.
        obtain ⟨chain', failed⟩ :=
          tooDeep_of_cycle closed reached (reached.cycle found call visited)
        exact Or.inr ⟨⟨_, _, rfl, rfl⟩, _, _, chain', failed, rfl⟩
      · have admitted' := Config.admits_detecting_iff.mpr ⟨visited, admitted⟩
        rw [members_admitted arguments other found admitted,
          members_admitted arguments other found admitted']
        exact inductionHypothesis (reached.enter closed found call)
  | refused chain name arguments definition other found refused =>
      have refused' : ¬(config.withDetection true).Admits chain name := fun admits =>
        refused (Config.admits_detecting_iff.mp admits).2
      rw [members_refused arguments other found refused,
        members_refused arguments other found refused']
      obtain same | parted := chain.refusal_detection config name
      · rw [same]
        exact Or.inl rfl
      · exact Or.inr parted
  | notSource chain node noSource =>
      rw [members_notSource noSource, members_notSource noSource]
      exact Or.inl rfl

end Heritage

/-- Both computations run alike, or one came back to a name and the other one went on until the
limit. -/
def Extraction.Lockstep {α : Type} (detecting ignoring : Extraction α) : Prop :=
  detecting.run = ignoring.run ∨ Parted detecting.run.value ignoring.run.value

namespace Payload

/-- Without detection a walk around a cycle goes on until the limit. -/
theorem tooDeep_of_cycle (closed : declarations.Closed) {chain : Chain}
    (dispatch : Option Dispatch) (legacy : Option String) {node : TypeExpr} (plain : node.Plain)
    (reached : Heritage.Reached (Heritage.Follows declarations) declarations chain node)
    (cycle : Relation.TransGen (Heritage.Follows declarations) node node) :
    ∃ chain', (resolve (config.withDetection false) declarations chain dispatch legacy
      node).run.value = .error (.ofCause (.loop (.tooDeep config.aliasLimit) chain')) := by
  have endless : ¬∃ outcome, Resolves declarations dispatch legacy node outcome := by
    intro ends
    obtain ⟨outcome, resolved⟩ := ends
    exact resolved.not_cycle closed plain cycle
  obtain ⟨error, failed, refused⟩ :=
    refused_of_endless closed reached.covered (.ignoring reached.declared) endless
  obtain ⟨chain', rfl⟩ := refused.tooDeep
  exact ⟨chain', failed⟩

/-- Detection changes the walk for a payload only where both walks are refused. -/
theorem resolve_detection (closed : declarations.Closed) {chain : Chain}
    {dispatch : Option Dispatch} {legacy : Option String} {node : TypeExpr}
    (reached : Heritage.Reached (Heritage.Follows declarations) declarations chain node)
    (plain : chain = [] ∨ node.Plain) :
    Extraction.Lockstep
      (resolve (config.withDetection true) declarations chain dispatch legacy node)
      (resolve (config.withDetection false) declarations chain dispatch legacy node) := by
  unfold Extraction.Lockstep
  induction chain, dispatch, legacy, node using
    resolve_induction (config.withDetection false) declarations with
  | interfaceDecl chain dispatch legacy name own heritage =>
      rw [resolve_interfaceDecl, resolve_interfaceDecl]
      obtain same | parted := Heritage.members_detection closed reached.calls
      · rw [same]
        exact Or.inl rfl
      · exact Or.inr (parted.map _ _)
  | object chain dispatch legacy own =>
      rw [resolve_object, resolve_object]
      exact Or.inl rfl
  | missingArgument chain dispatch legacy =>
      rw [resolve_missingArgument, resolve_missingArgument]
      exact Or.inl rfl
  | readonly chain dispatch legacy first rest inductionHypothesis =>
      have follows : Heritage.Follows declarations _ _ := .readonly first rest
      rw [resolve_readonly, resolve_readonly]
      exact inductionHypothesis (reached.tail closed follows (.reference follows))
        (plain.imp_right (Heritage.plain_of_follows closed · follows))
  | noPayload chain dispatch legacy inner =>
      rw [resolve_noPayload, resolve_noPayload]
      exact Or.inl rfl
  | legacyRefused chain dispatch legacy inner payload rest error refused =>
      rw [resolve_legacyRefused dispatch legacy refused,
        resolve_legacyRefused dispatch legacy refused]
      exact Or.inl rfl
  | nullish chain dispatch legacy inner payload rest innerLegacy legal missing =>
      rw [resolve_nullish dispatch legacy legal missing,
        resolve_nullish dispatch legacy legal missing]
      exact Or.inl rfl
  | payload chain dispatch legacy inner payload rest innerLegacy legal present
      inductionHypothesis =>
      rw [resolve_payload dispatch legacy legal present,
        resolve_payload dispatch legacy legal present]
      obtain rfl | plain := plain
      · exact inductionHypothesis (.nil reached.covered.payload) (Or.inl rfl)
      · cases plain.noHandler.symm.trans (Dispatch.ofWrapperName?_wrapperName inner)
  | undeclared chain dispatch legacy name arguments other noHandler absent =>
      rw [resolve_undeclared dispatch legacy arguments other noHandler absent,
        resolve_undeclared dispatch legacy arguments other noHandler absent]
      exact Or.inl rfl
  | admitted chain dispatch legacy name arguments definition other noHandler found admitted
      inductionHypothesis =>
      have follows : Heritage.Follows declarations _ _ := .declared arguments other found
      by_cases visited : name ∈ chain
      · have refused : ¬(config.withDetection true).Admits chain name := by
          rw [Config.admits_detecting_iff]
          exact fun admits => admits.1 visited
        -- A handler would leave the cycle, but behind a name there is none.
        have plain := plain.resolve_left (List.ne_nil_of_mem visited)
        obtain ⟨chain', failed⟩ := tooDeep_of_cycle closed dispatch legacy plain reached
          (reached.cycle found follows visited)
        rw [resolve_refused dispatch legacy arguments other noHandler found refused,
          Chain.refusal_visited visited]
        exact Or.inr ⟨⟨_, _, rfl, rfl⟩, _, _, chain', failed, rfl⟩
      · have admitted' := Config.admits_detecting_iff.mpr ⟨visited, admitted⟩
        rw [resolve_admitted dispatch legacy arguments other noHandler found admitted,
          resolve_admitted dispatch legacy arguments other noHandler found admitted']
        obtain same | parted := inductionHypothesis (reached.enter closed found follows)
          (Or.inr (closed.plain found))
        · rw [same]
          exact Or.inl rfl
        · exact Or.inr parted
  | refused chain dispatch legacy name arguments definition other noHandler found refused =>
      have refused' : ¬(config.withDetection true).Admits chain name := fun admits =>
        refused (Config.admits_detecting_iff.mp admits).2
      rw [resolve_refused dispatch legacy arguments other noHandler found refused,
        resolve_refused dispatch legacy arguments other noHandler found refused']
      obtain same | parted := chain.refusal_detection config name
      · rw [same]
        exact Or.inl rfl
      · exact Or.inr parted
  | notSource chain dispatch legacy node noSource =>
      rw [resolve_notSource dispatch legacy noSource, resolve_notSource dispatch legacy noSource]
      exact Or.inl rfl

end Payload
end ComponentEvents
