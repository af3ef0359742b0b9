/-
This file guards the names entered on the way to a payload.
-/

import ComponentEvents.Config.Basic
import ComponentEvents.Error

namespace ComponentEvents

/-- The names stand in the order in which they were entered. -/
abbrev Chain := List String

/-- A name may be entered while the chain is shorter than the limit and, where cycles are detected,
does not hold the name. -/
def Config.Admits (config : Config) (chain : Chain) (name : String) : Prop :=
  ¬(config.detectCycles = true ∧ name ∈ chain) ∧ chain.length < config.aliasLimit

instance (config : Config) (chain : Chain) (name : String) :
    Decidable (config.Admits chain name) := inferInstanceAs (Decidable (_ ∧ _))

namespace Chain

/-- A name that is entered stands at the end. -/
def enter (chain : Chain) (name : String) : Chain := chain ++ [name]

/-- An interface without a name, or with a name that stands in the chain, leaves the chain as it
is. -/
def mention (chain : Chain) (name : String) : Chain :=
  if name = "" ∨ name ∈ chain then chain else chain.enter name

@[simp] theorem length_enter (chain : Chain) (name : String) :
    (chain.enter name).length = chain.length + 1 := by
  simp [enter]

theorem length_le_mention (chain : Chain) (name : String) :
    chain.length ≤ (chain.mention name).length := by
  unfold mention
  split
  · exact Nat.le_refl _
  · rw [length_enter]
    exact Nat.le_succ _

/-- The error tells of a cycle where there is one and otherwise of the limit. -/
def refusal (config : Config) (chain : Chain) (name : String) : ExtractionError :=
  let reason :=
    if config.detectCycles = true ∧ name ∈ chain then .cyclic else .tooDeep config.aliasLimit
  .ofCause (.loop reason (chain.enter name))

/-- Entering a name uses up a part of the limit. -/
theorem remaining_enter {config : Config} {chain : Chain} {name : String}
    (admitted : config.Admits chain name) :
    config.aliasLimit - (chain.enter name).length < config.aliasLimit - chain.length := by
  have room := admitted.2
  rw [length_enter]
  omega

end Chain

end ComponentEvents
