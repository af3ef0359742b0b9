/-
This file shows that calls of a walk are nested only as deep as the limit and the sizes of the types
allow.
-/

import ComponentEvents.Chain
import ComponentEvents.Proofs.Walk.Positions

namespace ComponentEvents

mutual

/-- This is the number of types in the type, those inside its members included. -/
def TypeExpr.size : TypeExpr → Nat
  | .keyword _ | .literal _ => 1
  | .reference _ arguments => TypeExpr.sizeOfAll arguments + 1
  | .union arms => TypeExpr.sizeOfAll arms + 1
  | .intersection parts => TypeExpr.sizeOfAll parts + 1
  | .parenthesized inner => inner.size + 1
  | .object members => Member.sizeOfAll members + 1
  | .interfaceDecl _ members heritage =>
      Member.sizeOfAll members + TypeExpr.sizeOfAll heritage + 1
  | .aliasDecl _ definition => definition.size + 1

def TypeExpr.sizeOfAll : List TypeExpr → Nat
  | [] => 0
  | node :: nodes => node.size + TypeExpr.sizeOfAll nodes

def Member.size : Member → Nat
  | .property _ type _ => type.size
  | .method _ => 0
  | .index keyType valueType => keyType.size + valueType.size
  | .call result => result.size
  | .spread argument => argument.size

def Member.sizeOfAll : List Member → Nat
  | [] => 0
  | member :: members => member.size + Member.sizeOfAll members

end

namespace TypeExpr

theorem size_pos (node : TypeExpr) : 0 < node.size := by
  cases node <;> simp [size]

theorem size_le_of_mem {node : TypeExpr} {nodes : List TypeExpr} (member : node ∈ nodes) :
    node.size ≤ sizeOfAll nodes := by
  induction nodes with
  | nil => cases member
  | cons first rest inductionHypothesis =>
      rw [sizeOfAll]
      obtain rfl | member := List.mem_cons.mp member
      · exact Nat.le_add_right _ _
      · exact Nat.le_add_left_of_le (inductionHypothesis member)

theorem size_unaliased_le (node : TypeExpr) : node.unaliased.size ≤ node.size := by
  cases node with
  | aliasDecl name definition =>
      rw [unaliased, size]
      exact Nat.le_succ _
  | _ => exact Nat.le_refl _

end TypeExpr

namespace Declarations

/-- This is the number of types in all definitions. -/
def size (declarations : Declarations) : Nat :=
  TypeExpr.sizeOfAll (declarations.entries.map Prod.snd)

theorem size_unaliased_le {declarations : Declarations} {name : String} {definition : TypeExpr}
    (found : declarations.find? name = some definition) :
    definition.unaliased.size ≤ declarations.size :=
  Nat.le_trans definition.size_unaliased_le
    (TypeExpr.size_le_of_mem (List.mem_map_of_mem (mem_entries_of_find? found)))

end Declarations

/-- This number of nested calls is enough at the node, whatever the chain is. -/
def Config.fuelFor (config : Config) (declarations : Declarations) (node : TypeExpr) : Nat :=
  config.aliasLimit * (2 * declarations.size + 2) + (2 * node.size + 1)

/-- A walk to a payload, the flattening of an interface and a walk for members call each other. -/
inductive Stage where
  | payload
  | flattening
  | members
  deriving DecidableEq, Repr

/-- The flattening of an interface is called at the interface. -/
structure Call where
  stage : Stage
  chain : Chain
  node : TypeExpr

namespace Call

/-- A call makes the second one without a look-up. -/
inductive Descends : Call → Call → Prop
  | interface {stage : Stage} (other : stage ≠ .flattening) (chain : Chain) (name : String)
      (own : List Member) (heritage : List TypeExpr) :
      Descends ⟨stage, chain, .interfaceDecl name own heritage⟩
        ⟨.flattening, chain, .interfaceDecl name own heritage⟩
  | entry (chain : Chain) (name : String) (own : List Member) {entry : TypeExpr}
      {heritage : List TypeExpr} (member : entry ∈ heritage) :
      Descends ⟨.flattening, chain, .interfaceDecl name own heritage⟩
        ⟨.members, chain.mention name, entry⟩
  | part (chain : Chain) {part : TypeExpr} {parts : List TypeExpr} (member : part ∈ parts) :
      Descends ⟨.members, chain, .intersection parts⟩ ⟨.members, chain, part⟩
  | readonly {stage : Stage} (other : stage ≠ .flattening) (chain : Chain) (first : TypeExpr)
      (rest : List TypeExpr) :
      Descends ⟨stage, chain, .reference TypeExpr.readonlyName (first :: rest)⟩
        ⟨stage, chain, first⟩
  | payload (chain : Chain) (dispatch : Dispatch) (payload : TypeExpr) (rest : List TypeExpr) :
      Descends ⟨.payload, chain, .reference dispatch.wrapperName (payload :: rest)⟩
        ⟨.payload, chain, payload⟩

/-- A walk for members goes on from an interface that it has looked up with its flattening. -/
def stageAfter : Stage → TypeExpr → Stage
  | .members, .interfaceDecl _ _ _ => .flattening
  | stage, _ => stage

/-- A call looks up a name and makes the second one at its definition. -/
inductive LooksUp (config : Config) (declarations : Declarations) : Call → Call → Prop
  | enter {stage : Stage} {chain : Chain} {name : String} {definition : TypeExpr}
      (arguments : List TypeExpr) (found : declarations.find? name = some definition)
      (admitted : config.Admits chain name) :
      LooksUp config declarations ⟨stage, chain, .reference name arguments⟩
        ⟨stageAfter stage definition.unaliased, chain.enter name, definition.unaliased⟩

/-- The second call is nested directly in the first one. -/
def Nests (config : Config) (declarations : Declarations) (call below : Call) : Prop :=
  call.Descends below ∨ call.LooksUp config declarations below

/-- The second call is at a proper part of the node of the first one, or it is the flattening of the
interface that the first one is at. -/
def Inside (call below : Call) : Prop :=
  call.node.Leads below.node ∧
    (below.node.size < call.node.size ∨
      below.node = call.node ∧ call.stage ≠ .flattening ∧ below.stage = .flattening)

theorem Descends.nests {config : Config} {declarations : Declarations} {call below : Call}
    (descends : call.Descends below) : call.Nests config declarations below :=
  Or.inl descends

theorem LooksUp.nests {config : Config} {declarations : Declarations} {call below : Call}
    (looksUp : call.LooksUp config declarations below) : call.Nests config declarations below :=
  Or.inr looksUp

theorem Descends.inside {call below : Call} (descends : call.Descends below) :
    call.Inside below := by
  cases descends with
  | interface other chain name own heritage =>
      exact ⟨.here _, Or.inr ⟨rfl, other, rfl⟩⟩
  | entry chain name own member =>
      refine ⟨.heritage member (.here _), Or.inl ?_⟩
      have smaller := TypeExpr.size_le_of_mem member
      simp only [TypeExpr.size]
      omega
  | part chain member =>
      refine ⟨.part member (.here _), Or.inl ?_⟩
      have smaller := TypeExpr.size_le_of_mem member
      simp only [TypeExpr.size]
      omega
  | readonly other chain first rest =>
      refine ⟨.readonly (.here _), Or.inl ?_⟩
      simp only [TypeExpr.size, TypeExpr.sizeOfAll]
      omega
  | payload chain dispatch payload rest =>
      refine ⟨.handler dispatch (.here _), Or.inl ?_⟩
      simp only [TypeExpr.size, TypeExpr.sizeOfAll]
      omega

theorem Descends.length_le {call below : Call} (descends : call.Descends below) :
    call.chain.length ≤ below.chain.length := by
  cases descends with
  | entry chain name => exact chain.length_le_mention name
  | _ => exact Nat.le_refl _

/-- No more calls are nested in this one before the next look-up. -/
def depth (call : Call) : Nat :=
  2 * call.node.size + if call.stage = .flattening then 0 else 1

theorem depth_le (call : Call) : call.depth ≤ 2 * call.node.size + 1 := by
  unfold depth
  split <;> omega

theorem le_depth (call : Call) : 2 * call.node.size ≤ call.depth :=
  Nat.le_add_right _ _

theorem Descends.depth_lt {call below : Call} (descends : call.Descends below) :
    below.depth < call.depth := by
  obtain ⟨-, smaller | ⟨same, other, flattening⟩⟩ := descends.inside
  · have bound := below.depth_le
    have bound' := call.le_depth
    omega
  · rw [depth, depth, same, if_pos flattening, if_neg other]
    exact Nat.lt_succ_self _

/-- Every look-up that the limit still allows may bring a definition of any size. -/
def rank (config : Config) (declarations : Declarations) (call : Call) : Nat :=
  (config.aliasLimit - call.chain.length) * (2 * declarations.size + 2) + call.depth

variable {config : Config} {declarations : Declarations} {call below : Call}

theorem rank_le_fuelFor (call : Call) :
    call.rank config declarations ≤ config.fuelFor declarations call.node :=
  Nat.add_le_add (Nat.mul_le_mul_right _ (Nat.sub_le _ _)) call.depth_le

theorem rank_pos (call : Call) : 0 < call.rank config declarations := by
  have positive := call.node.size_pos
  have bound := call.le_depth
  unfold rank
  omega

theorem Descends.rank_lt (descends : call.Descends below) :
    below.rank config declarations < call.rank config declarations := by
  have room : config.aliasLimit - below.chain.length ≤ config.aliasLimit - call.chain.length :=
    Nat.sub_le_sub_left descends.length_le _
  exact Nat.add_lt_add_of_le_of_lt (Nat.mul_le_mul_right _ room) descends.depth_lt

theorem LooksUp.rank_lt (looksUp : call.LooksUp config declarations below) :
    below.rank config declarations < call.rank config declarations := by
  have bound := below.depth_le
  cases looksUp with
  | @enter stage chain name definition arguments found admitted =>
      have definitionBound := Declarations.size_unaliased_le found
      have room : config.aliasLimit - chain.length =
          config.aliasLimit - (chain.enter name).length + 1 := by
        have below := admitted.2
        rw [Chain.length_enter]
        omega
      simp only [rank, room, Nat.succ_mul] at bound ⊢
      omega

theorem Nests.rank_lt (nests : call.Nests config declarations below) :
    below.rank config declarations < call.rank config declarations :=
  nests.elim Descends.rank_lt LooksUp.rank_lt

/-- A call that is nested in one of this rank has a lower one. -/
theorem Nests.rank_le (nests : call.Nests config declarations below) {bound : Nat}
    (within : call.rank config declarations ≤ bound + 1) :
    below.rank config declarations ≤ bound :=
  Nat.le_of_lt_succ (Nat.lt_of_lt_of_le nests.rank_lt within)

/-- Calls are not nested without end. -/
theorem wellFounded_nests (config : Config) (declarations : Declarations) :
    WellFounded fun below call => Nests config declarations call below :=
  Subrelation.wf Nests.rank_lt (measure (rank config declarations)).wf

/-- Calls that are nested in each other lead from the first one to the second, and this many of them
look up a name. -/
inductive Path (config : Config) (declarations : Declarations) : Nat → Call → Call → Prop
  | here (call : Call) : Path config declarations 0 call call
  | descend {lookUps : Nat} {first call below : Call}
      (path : Path config declarations lookUps first call) (descends : call.Descends below) :
      Path config declarations lookUps first below
  | lookUp {lookUps : Nat} {first call below : Call}
      (path : Path config declarations lookUps first call)
      (looksUp : call.LooksUp config declarations below) :
      Path config declarations (lookUps + 1) first below

/-- Every look-up makes the chain longer, and the last one found it shorter than the limit. -/
theorem Path.length_le {lookUps : Nat} {first last : Call}
    (path : Path config declarations lookUps first last) :
    first.chain.length + lookUps ≤ last.chain.length ∧
      (lookUps = 0 ∨ first.chain.length + lookUps ≤ config.aliasLimit) := by
  induction path with
  | here call => exact ⟨Nat.le_refl _, Or.inl rfl⟩
  | descend path descends inductionHypothesis =>
      exact inductionHypothesis.imp_left fun longer => Nat.le_trans longer descends.length_le
  | lookUp path looksUp inductionHypothesis =>
      obtain ⟨longer, -⟩ := inductionHypothesis
      cases looksUp with
      | enter arguments found admitted =>
          have room := admitted.2
          simp only [Chain.length_enter] at longer ⊢
          omega

theorem Path.lookUps_le {lookUps : Nat} {first last : Call}
    (path : Path config declarations lookUps first last) : lookUps ≤ config.aliasLimit := by
  obtain none | within := path.length_le.2
  · exact none ▸ Nat.zero_le _
  · exact Nat.le_trans (Nat.le_add_left _ _) within

end Call
end ComponentEvents
