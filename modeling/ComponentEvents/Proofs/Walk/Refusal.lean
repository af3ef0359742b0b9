/-
This file shows that the guard refuses a name exactly where the walk would not end.
-/

import ComponentEvents.Proofs.Walk.Places

namespace ComponentEvents

variable {config : Config} {declarations : Declarations}

/-- The guard refused a declared name after a chain that it kept. -/
def Config.Refused (config : Config) (declarations : Declarations) (error : ExtractionError) :
    Prop :=
  ∃ visited name definition, config.Keeps declarations visited ∧
    declarations.find? name = some definition ∧ ¬config.Admits visited name ∧
    error = visited.refusal config name

/-- Where the limit has room for all declared names, a refusal tells of a cycle if cycles are
detected and of the limit, which is then reached, if they are not. -/
theorem Config.Refused.eq_loop {error : ExtractionError}
    (refused : config.Refused declarations error)
    (room : declarations.names.length ≤ config.aliasLimit) :
    ∃ visited name, (config.detectCycles = true → visited.Nodup ∧ name ∈ visited) ∧
      (config.detectCycles = false → config.aliasLimit ≤ visited.length) ∧
      (∀ other ∈ visited ++ [name], other ∈ declarations.names) ∧
      error = .ofCause (.loop
        (if config.detectCycles then .cyclic else .tooDeep config.aliasLimit)
        (visited ++ [name])) := by
  obtain ⟨visited, name, definition, kept, found, refused, rfl⟩ := refused
  have repeats : config.detectCycles = true → name ∈ visited := by
    intro detects
    by_contra fresh
    refine refused ⟨fun found => fresh found.2, ?_⟩
    exact Chain.length_lt_limit room (kept.distinct detects) kept.declared found fresh
  have full : config.detectCycles = false → config.aliasLimit ≤ visited.length := by
    intro ignores
    by_contra room
    refine refused ⟨fun found => ?_, Nat.lt_of_not_le room⟩
    cases ignores.symm.trans found.1
  refine ⟨visited, name, fun detects => ⟨kept.distinct detects, repeats detects⟩, full, ?_, ?_⟩
  · intro other member
    obtain member | rfl := Chain.mem_enter.mp member
    · obtain ⟨definition, found⟩ := kept.declared other member
      exact Declarations.mem_names_of_find? found
    · exact Declarations.mem_names_of_find? found
  · cases detects : config.detectCycles with
    | true => simp [Chain.refusal, Chain.enter, detects, repeats detects]
    | false => simp [Chain.refusal, Chain.enter, detects]

/-- On a walk from a sound place the guard kept the chain. -/
theorem Place.Refuses.refused (closed : declarations.Closed) {place : Place}
    {error : ExtractionError} (refuses : Refuses config declarations place error)
    (sound : Sound config declarations place) : config.Refused declarations error := by
  obtain ⟨chain, name, _, definition, sound, found, refused, rfl⟩ :=
    refuses.exists_of_kept sound (.next closed.covers)
  exact ⟨chain, name, definition, sound.kept, found, refused, rfl⟩

namespace Heritage

/-- A failure is a refusal of the guard or lies in a node. -/
theorem members_error (closed : declarations.Closed) {chain : Chain} {node : TypeExpr}
    {error : ExtractionError} (covered : declarations.Covers node)
    (kept : config.Keeps declarations chain)
    (failed : members config declarations chain node = .error error) :
    config.Refused declarations error ∨ ∃ obstacle, error = .ofCause (.obstacle obstacle) :=
  (members_refuses failed).imp_left fun refuses => refuses.refused closed ⟨covered, kept⟩

/-- A walk that would not end is refused. -/
theorem refused_of_endless (closed : declarations.Closed) {chain : Chain} {node : TypeExpr}
    (covered : declarations.Covers node) (kept : config.Keeps declarations chain)
    (endless : ¬∃ outcome, Collects declarations node outcome) :
    ∃ error, members config declarations chain node = .error error ∧
      config.Refused declarations error := by
  obtain ⟨error, failed, loop⟩ := exists_loop_of_endless config chain endless
  obtain refused | ⟨obstacle, rfl⟩ := members_error closed covered kept failed
  · exact ⟨error, failed, refused⟩
  · exact (ExtractionError.not_isLoop_obstacle obstacle loop).elim

end Heritage

namespace Payload

/-- A failure is a refusal of the guard or lies in a node. -/
theorem resolve_error (closed : declarations.Closed) {chain : Chain}
    {dispatch : Option Dispatch} {legacy : Option String} {node : TypeExpr}
    {error : ExtractionError} (covered : declarations.Covers node)
    (kept : config.Keeps declarations chain)
    (failed : (resolve config declarations chain dispatch legacy node).run.value = .error error) :
    config.Refused declarations error ∨ ∃ obstacle, error = .ofCause (.obstacle obstacle) :=
  (resolve_refuses failed).imp_left fun refuses => refuses.refused closed ⟨covered, kept⟩

/-- A walk that would not end is refused. -/
theorem refused_of_endless (closed : declarations.Closed) {chain : Chain}
    {dispatch : Option Dispatch} {legacy : Option String} {node : TypeExpr}
    (covered : declarations.Covers node) (kept : config.Keeps declarations chain)
    (endless : ¬∃ outcome, Resolves declarations dispatch legacy node outcome) :
    ∃ error, (resolve config declarations chain dispatch legacy node).run.value = .error error ∧
      config.Refused declarations error := by
  obtain ⟨error, failed, loop⟩ := exists_loop_of_endless config chain endless
  obtain refused | ⟨obstacle, rfl⟩ := resolve_error closed covered kept failed
  · exact ⟨error, failed, refused⟩
  · exact (ExtractionError.not_isLoop_obstacle obstacle loop).elim

/-- Where the limit has room for all declared names, the guard changes nothing on a walk that ends
and refuses a name on any other walk. -/
theorem resolve_guarded (closed : declarations.Closed) (dispatch : Option Dispatch)
    (legacy : Option String) {node : TypeExpr} (covered : declarations.Covers node)
    (room : declarations.names.length ≤ config.aliasLimit) :
    (∀ outcome, Resolves declarations dispatch legacy node outcome →
      (resolve config declarations [] dispatch legacy node).run.value = outcome ∧
        ∀ error, outcome = .error error → ∃ obstacle, error = .ofCause (.obstacle obstacle)) ∧
    ((¬∃ outcome, Resolves declarations dispatch legacy node outcome) →
      ∃ visited name, (config.detectCycles = true → visited.Nodup ∧ name ∈ visited) ∧
        (config.detectCycles = false → config.aliasLimit ≤ visited.length) ∧
        (∀ other ∈ visited ++ [name], other ∈ declarations.names) ∧
        (resolve config declarations [] dispatch legacy node).run.value = .error (.ofCause (.loop
          (if config.detectCycles then .cyclic else .tooDeep config.aliasLimit)
          (visited ++ [name])))) := by
  constructor
  · intro outcome resolved
    refine ⟨resolved.resolve_eq closed room List.nodup_nil (.nil covered) (Or.inl rfl), ?_⟩
    intro error failed
    subst failed
    exact resolved.obstacle
  · intro endless
    obtain ⟨error, failed, refused⟩ := refused_of_endless closed covered .nil endless
    obtain ⟨visited, name, repeats, full, declared, rfl⟩ := refused.eq_loop room
    exact ⟨visited, name, repeats, full, declared, failed⟩

/-- The interface inherits from itself through an alias. -/
def selfInheriting : Declarations where
  entries := [
    ("Event", .interfaceDecl "Event" [] [.reference "Base" []]),
    ("Base", .aliasDecl "Base" (.intersection [
      .reference "Payload" [], .reference TypeExpr.readonlyName [.reference "Event" []]])),
    ("Payload", .object [.method "persist"])]

/-- This handler has the interface as its payload. -/
def selfInheritingHandler : TypeExpr :=
  .reference Dispatch.direct.wrapperName [.reference "Event" []]

theorem closed_selfInheriting : selfInheriting.Closed := by
  have readonly : TypeExpr.readonlyName = TypeExpr.readonlyName ∨
      ∃ dispatch : Dispatch, TypeExpr.readonlyName = dispatch.wrapperName := Or.inl rfl
  apply Declarations.Closed.of_entries
  · simp [selfInheriting, TypeExpr.unaliased, Declarations.Covers,
      TypeExpr.leads_wrapper_iff readonly, Declarations.Owns, Declarations.find?]
  · simp [selfInheriting, TypeExpr.unaliased, TypeExpr.Plain,
      TypeExpr.leads_wrapper_iff readonly, or_imp, forall_and]
    decide

theorem covers_selfInheritingHandler : selfInheriting.Covers selfInheritingHandler := by
  have handler : Dispatch.direct.wrapperName = TypeExpr.readonlyName ∨
      ∃ dispatch : Dispatch, Dispatch.direct.wrapperName = dispatch.wrapperName :=
    Or.inr ⟨.direct, rfl⟩
  simp [selfInheritingHandler, Declarations.Covers, TypeExpr.leads_wrapper_iff handler,
    Declarations.Owns]

/-- The walk comes to the parts of the alias, and it fails where one of them does. -/
theorem resolve_selfInheritingHandler (room : 2 ≤ config.aliasLimit) {error : ExtractionError}
    (failed : Heritage.members config selfInheriting ["Event", "Base"] (.intersection [
      .reference "Payload" [], .reference TypeExpr.readonlyName [.reference "Event" []]]) =
        .error error) :
    (resolve config selfInheriting [] none none selfInheritingHandler).run.value =
      .error error := by
  have event : config.Admits [] "Event" := ⟨by simp, by simp; omega⟩
  have base : config.Admits ["Event"] "Base" := ⟨by simp, by simp; omega⟩
  have heritage : Heritage.members config selfInheriting ["Event"] (.reference "Base" []) =
      .error error := by
    rw [Heritage.members_admitted [] (by decide) rfl base]
    exact failed
  have interface : Heritage.members config selfInheriting (Chain.enter [] "Event")
      (.interfaceDecl "Event" [] [.reference "Base" []]) = .error error := by
    have mentioned : Chain.mention (Chain.enter [] "Event") "Event" = ["Event"] := rfl
    rw [Heritage.members_interfaceDecl, mentioned, Heritage.members_failedPart [] heritage]
    rfl
  rw [selfInheritingHandler, resolve_payload none none rfl rfl,
    resolve_admitted (some .direct) none [] (by decide) rfl rfl event]
  simp only [TypeExpr.unaliased]
  rw [resolve_interfaceDecl, interface]
  rfl

/-- The second part leads back to the interface. -/
theorem resolve_selfInheritingHandler_cyclic (config : Config)
    (detects : config.detectCycles = true) (room : 3 ≤ config.aliasLimit) :
    (resolve config selfInheriting [] none none selfInheritingHandler).run.value =
      .error (.ofCause (.loop .cyclic ["Event", "Base", "Event"])) := by
  have payload : config.Admits ["Event", "Base"] "Payload" := ⟨by simp, by simp; omega⟩
  have event : ¬config.Admits ["Event", "Base"] "Event" := fun admits =>
    admits.1 ⟨detects, by decide⟩
  apply resolve_selfInheritingHandler (by omega)
  have first : Heritage.members config selfInheriting ["Event", "Base"] (.reference "Payload" []) =
      .ok [.method "persist"] := by
    rw [Heritage.members_admitted [] (by decide) rfl payload]
    exact Heritage.members_object _ _ _ _
  have second : Heritage.members config selfInheriting ["Event", "Base"]
      (.reference TypeExpr.readonlyName [.reference "Event" []]) =
        .error (.ofCause (.loop .cyclic ["Event", "Base", "Event"])) := by
    rw [Heritage.members_readonly, Heritage.members_refused [] (by decide) rfl event]
    simp [Chain.refusal, Chain.enter, detects]
  rw [Heritage.members_parts _ first, Heritage.members_failedPart [] second]
  rfl

/-- The limit is reached at the first part. -/
theorem resolve_selfInheritingHandler_tooDeep (config : Config)
    (limit : config.aliasLimit = 2) :
    (resolve config selfInheriting [] none none selfInheritingHandler).run.value =
      .error (.ofCause (.loop (.tooDeep 2) ["Event", "Base", "Payload"])) := by
  have payload : ¬config.Admits ["Event", "Base"] "Payload" := fun admits => by
    have room := admits.2
    rw [limit] at room
    exact absurd room (by decide)
  apply resolve_selfInheritingHandler (by omega)
  have first : Heritage.members config selfInheriting ["Event", "Base"] (.reference "Payload" []) =
      .error (.ofCause (.loop (.tooDeep 2) ["Event", "Base", "Payload"])) := by
    rw [Heritage.members_refused [] (by decide) rfl payload]
    simp [Chain.refusal, Chain.enter, limit]
  exact Heritage.members_failedPart _ first

/-- The handler is refused, and a part of its payload is not. -/
theorem resolve_guarded_selfInheriting :
    selfInheriting.Closed ∧ selfInheriting.names.length ≤ 3 ∧
    (selfInheriting.Covers selfInheritingHandler ∧
      (¬∃ outcome, Resolves selfInheriting none none selfInheritingHandler outcome) ∧
      ∃ visited name, visited.Nodup ∧ name ∈ visited ∧
        (∀ other ∈ visited ++ [name], other ∈ selfInheriting.names) ∧
        (resolve ⟨3, true, true, by decide⟩ selfInheriting [] none none
          selfInheritingHandler).run.value =
            .error (.ofCause (.loop .cyclic (visited ++ [name])))) ∧
    (selfInheriting.Covers (.reference "Payload" []) ∧
      Resolves selfInheriting none none (.reference "Payload" [])
        (.ok ⟨some [.method "persist"], none, none⟩) ∧
      (resolve ⟨3, true, true, by decide⟩ selfInheriting [] none none
        (.reference "Payload" [])).run.value = .ok ⟨some [.method "persist"], none, none⟩) := by
  have room : selfInheriting.names.length ≤ 3 := by decide
  have coversPayload : selfInheriting.Covers (.reference "Payload" []) := by
    simp [Declarations.Covers, Declarations.Owns]
  have handler := @resolve_guarded ⟨3, true, true, by decide⟩ _ closed_selfInheriting none none _
    covers_selfInheritingHandler room
  have payload := @resolve_guarded ⟨3, true, true, by decide⟩ _ closed_selfInheriting none none _
    coversPayload room
  have resolved : Resolves selfInheriting none none (.reference "Payload" [])
      (.ok ⟨some [.method "persist"], none, none⟩) := by
    have found : selfInheriting.find? "Payload" = some (.object [.method "persist"]) := rfl
    exact .declared [] (by decide) rfl found (.object none none _)
  refine ⟨closed_selfInheriting, room, ⟨covers_selfInheritingHandler, ?_⟩,
    ⟨coversPayload, resolved, ?_⟩⟩
  · have endless : ¬∃ outcome, Resolves selfInheriting none none selfInheritingHandler outcome := by
      intro resolved
      obtain ⟨outcome, ends⟩ := resolved
      obtain ⟨rfl, obstacle⟩ := handler.1 outcome ends
      obtain ⟨obstacle, same⟩ :=
        obstacle _ (resolve_selfInheritingHandler_cyclic _ rfl (by decide))
      cases same
    obtain ⟨visited, name, repeats, -, declared, failed⟩ := handler.2 endless
    obtain ⟨distinct, again⟩ := repeats rfl
    exact ⟨endless, visited, name, distinct, again, declared, failed⟩
  · exact (payload.1 _ resolved).1

end Payload
end ComponentEvents
