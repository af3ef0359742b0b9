/-
This file says what the chain tells of the way to a node.
-/

import ComponentEvents.Proofs.Walk.Calls

namespace ComponentEvents

theorem Chain.mem_enter {chain : Chain} {name other : String} :
    other ∈ chain.enter name ↔ other ∈ chain ∨ other = name := by
  simp [enter]

theorem Chain.nodup_enter {chain : Chain} {name : String} (distinct : chain.Nodup)
    (fresh : name ∉ chain) : (chain.enter name).Nodup := by
  rw [enter, List.nodup_append]
  refine ⟨distinct, List.nodup_singleton name, ?_⟩
  rintro other member _ found rfl
  rw [List.mem_singleton] at found
  exact fresh (found ▸ member)

/-- A mentioned name is never entered twice. -/
theorem Chain.nodup_mention {chain : Chain} (name : String) (distinct : chain.Nodup) :
    (chain.mention name).Nodup := by
  unfold mention
  split
  · exact distinct
  · rename_i fresh
    exact nodup_enter distinct fun member => fresh (Or.inr member)

theorem Chain.mem_mention {chain : Chain} {name other : String}
    (member : other ∈ chain.mention name) : other ∈ chain ∨ other = name := by
  unfold mention at member
  split at member
  · exact Or.inl member
  · exact mem_enter.mp member

/-- The guard keeps every name in the chain declared and, where cycles are detected, only once. -/
structure Config.Keeps (config : Config) (declarations : Declarations) (chain : Chain) : Prop where
  declared : ∀ name ∈ chain, ∃ definition, declarations.find? name = some definition
  distinct : config.detectCycles = true → chain.Nodup

namespace Config.Keeps

variable {config : Config} {declarations : Declarations} {chain : Chain} {name : String}

theorem nil : config.Keeps declarations [] where
  declared := by simp
  distinct := by simp

theorem enter {definition : TypeExpr} (kept : config.Keeps declarations chain)
    (found : declarations.find? name = some definition) (admitted : config.Admits chain name) :
    config.Keeps declarations (chain.enter name) where
  declared := by
    intro other member
    obtain member | rfl := Chain.mem_enter.mp member
    · exact kept.declared other member
    · exact ⟨definition, found⟩
  distinct := by
    intro detects
    exact Chain.nodup_enter (kept.distinct detects) fun visited => admitted.1 ⟨detects, visited⟩

theorem mention {own : List Member} {heritage : List TypeExpr}
    (kept : config.Keeps declarations chain)
    (owned : declarations.Owns (.interfaceDecl name own heritage)) :
    config.Keeps declarations (chain.mention name) where
  declared := by
    intro other member
    obtain member | rfl := Chain.mem_mention member
    · exact kept.declared other member
    · exact ⟨_, owned⟩
  distinct := by
    intro detects
    exact Chain.nodup_mention name (kept.distinct detects)

end Config.Keeps

namespace Heritage

/-- The node is free of inline interfaces, and these steps lead to it from the definition of every
name in the chain. -/
structure Reached (step : TypeExpr → TypeExpr → Prop) (declarations : Declarations) (chain : Chain)
    (node : TypeExpr) : Prop where
  covered : declarations.Covers node
  path : ∀ name ∈ chain, ∃ definition, declarations.find? name = some definition ∧
    Relation.ReflTransGen step definition.unaliased node

namespace Reached

variable {step : TypeExpr → TypeExpr → Prop} {declarations : Declarations} {chain : Chain}
  {node below definition : TypeExpr} {name : String} {arguments : List TypeExpr}

theorem nil (covered : declarations.Covers node) : Reached step declarations [] node where
  covered := covered
  path := by simp

theorem declared (reached : Reached step declarations chain node) :
    ∀ name ∈ chain, ∃ definition, declarations.find? name = some definition := by
  intro name member
  obtain ⟨definition, found, _⟩ := reached.path name member
  exact ⟨definition, found⟩

/-- A step leaves the chain as it is. -/
theorem tail (closed : declarations.Closed) (reached : Reached step declarations chain node)
    (next : step node below) (call : Calls declarations node below) :
    Reached step declarations chain below where
  covered := covers_of_calls closed reached.covered call
  path := by
    intro name member
    obtain ⟨definition, found, path⟩ := reached.path name member
    exact ⟨definition, found, path.tail next⟩

/-- The way of references to a payload is a way of the walk for members. -/
theorem calls (reached : Reached (Follows declarations) declarations chain node) :
    Reached (Calls declarations) declarations chain node where
  covered := reached.covered
  path := by
    have weaker : Follows declarations ≤ Calls declarations := fun _ _ follows => .reference follows
    intro name member
    obtain ⟨definition, found, path⟩ := reached.path name member
    exact ⟨definition, found, Relation.ReflTransGen.mono weaker _ _ path⟩

/-- The walk goes on from the definition of an entered name. -/
theorem enter (closed : declarations.Closed)
    (reached : Reached step declarations chain (.reference name arguments))
    (found : declarations.find? name = some definition)
    (next : step (.reference name arguments) definition.unaliased) :
    Reached step declarations (chain.enter name) definition.unaliased where
  covered := closed.covers found
  path := by
    intro other member
    obtain member | rfl := Chain.mem_enter.mp member
    · obtain ⟨definition', found', path⟩ := reached.path other member
      exact ⟨definition', found', path.tail next⟩
    · exact ⟨definition, found, .refl⟩

/-- The declaration of an owned interface is the interface itself. -/
theorem mention (closed : declarations.Closed) {own : List Member} {heritage : List TypeExpr}
    (reached : Reached (Calls declarations) declarations chain (.interfaceDecl name own heritage)) :
    Reached (Calls declarations) declarations (chain.mention name) (.intersection heritage) := by
  have call : Calls declarations _ _ := .heritage name own heritage
  have owned := reached.covered _ (.here _)
  refine ⟨covers_of_calls closed reached.covered call, fun other member => ?_⟩
  obtain member | rfl := Chain.mem_mention member
  · obtain ⟨definition, found, path⟩ := reached.path other member
    exact ⟨definition, found, path.tail call⟩
  · exact ⟨.interfaceDecl other own heritage, owned, .single call⟩

/-- A name that is met again lies on a cycle. -/
theorem cycle (reached : Reached step declarations chain (.reference name arguments))
    (found : declarations.find? name = some definition)
    (next : step (.reference name arguments) definition.unaliased) (visited : name ∈ chain) :
    Relation.TransGen step (.reference name arguments) (.reference name arguments) := by
  obtain ⟨definition', found', path⟩ := reached.path name visited
  cases found.symm.trans found'
  exact Relation.TransGen.head' next path

end Reached

end Heritage
end ComponentEvents
