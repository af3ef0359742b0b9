/-
This file compares walks that differ in their guards, their tables and their chains.
-/

import ComponentEvents.Proofs.Walk.Members
import ComponentEvents.Proofs.Walk.Payload
import ComponentEvents.Proofs.Walk.Positions

namespace ComponentEvents

namespace TypeExpr

theorem Leads.trans {first second third : TypeExpr} (leads : first.Leads second)
    (leads' : second.Leads third) : first.Leads third := by
  induction leads with
  | here => exact leads'
  | readonly _ inductionHypothesis => exact .readonly (inductionHypothesis leads')
  | handler dispatch _ inductionHypothesis => exact .handler dispatch (inductionHypothesis leads')
  | part member _ inductionHypothesis => exact .part member (inductionHypothesis leads')
  | heritage member _ inductionHypothesis => exact .heritage member (inductionHypothesis leads')

variable (known : String → Prop)

/-- A walk from the node looks up only known names before it enters one. -/
def Within (node : TypeExpr) : Prop :=
  ∀ name arguments, node.Leads (.reference name arguments) → name = readonlyName ∨ known name

variable {known}

theorem Within.below {node other : TypeExpr} (within : node.Within known)
    (leads : node.Leads other) : other.Within known :=
  fun _ _ leads' => within _ _ (leads.trans leads')

theorem Within.isKnown {name : String} {arguments : List TypeExpr}
    (within : (TypeExpr.reference name arguments).Within known) (other : name ≠ readonlyName) :
    known name :=
  (within _ _ (.here _)).resolve_left other

theorem within_intersection_iff {parts : List TypeExpr} :
    (TypeExpr.intersection parts).Within known ↔ ∀ part ∈ parts, part.Within known := by
  constructor
  · intro within part member
    exact within.below (.part member (.here part))
  · intro each name arguments leads
    obtain ⟨⟨⟩⟩ | ⟨part, member, leads⟩ := leads_intersection_iff.mp leads
    exact each part member name arguments leads

theorem Within.heritage {name : String} {own : List Member} {heritage : List TypeExpr}
    (within : (TypeExpr.interfaceDecl name own heritage).Within known) :
    (TypeExpr.intersection heritage).Within known :=
  within_intersection_iff.mpr fun _ member => within.below (.heritage member (.here _))

end TypeExpr

/-- The second walk keeps in step with the first one. Both see the same definitions under known
names, and where the first one admits a name, so does the second. A refusal of the first one is
excused or is shared. -/
structure InStep (config config' : Config) (declarations declarations' : Declarations)
    (known : String → Prop) (related : Chain → Chain → Prop)
    (excused : ExtractionError → Prop) : Prop where
  find : ∀ {name}, known name → declarations'.find? name = declarations.find? name
  within : ∀ {name definition}, known name → declarations.find? name = some definition →
    definition.unaliased.Within known
  mention : ∀ {chain chain'} name, related chain chain' →
    related (chain.mention name) (chain'.mention name)
  enter : ∀ {chain chain' name}, related chain chain' → known name → config.Admits chain name →
    config'.Admits chain' name ∧ related (chain.enter name) (chain'.enter name)
  refused : ∀ {chain chain' name}, related chain chain' → known name →
    ¬config.Admits chain name → excused (chain.refusal config name) ∨
      ¬config'.Admits chain' name ∧ chain'.refusal config' name = chain.refusal config name

/-- The outcome is an error that is excused. -/
def Excused {α : Type} (excused : ExtractionError → Prop) (outcome : Except ExtractionError α) :
    Prop :=
  ∃ error, outcome = .error error ∧ excused error

variable {config config' : Config} {declarations declarations' : Declarations}
  {known : String → Prop} {related : Chain → Chain → Prop}
  {excused : ExtractionError → Prop}

theorem Excused.map {α β : Type} {outcome : Except ExtractionError α}
    (excuse : Excused excused outcome) (change : α → β) :
    Excused excused (outcome.map change) := by
  obtain ⟨error, rfl, given⟩ := excuse
  exact ⟨error, rfl, given⟩

namespace Heritage

/-- Walks in step collect the same members or fail alike, unless the failure is excused. -/
theorem members_inStep
    (step : InStep config config' declarations declarations' known related excused)
    {chain chain' : Chain} {node : TypeExpr} (within : node.Within known)
    (follows : related chain chain') :
    Excused excused (members config declarations chain node) ∨
      members config' declarations' chain' node = members config declarations chain node := by
  induction chain, node using members_induction config declarations generalizing chain' with
  | object chain own =>
      rw [members_object, members_object]
      exact Or.inr rfl
  | interfaceDecl chain name own heritage inductionHypothesis =>
      rw [members_interfaceDecl, members_interfaceDecl]
      obtain excuse | same := inductionHypothesis within.heritage
        (step.mention name follows)
      · exact Or.inl (excuse.map _)
      · exact Or.inr (by rw [same])
  | noParts chain =>
      rw [members_noParts, members_noParts]
      exact Or.inr rfl
  | parts chain node nodes firstHypothesis restHypothesis =>
      -- Both walks end at a failed first part, and where it does not fail, the rest decides.
      have each := TypeExpr.within_intersection_iff.mp within
      have withinRest : (TypeExpr.intersection nodes).Within known :=
        TypeExpr.within_intersection_iff.mpr (List.forall_mem_cons.mp each).2
      cases first : members config declarations chain node with
      | error error =>
          rw [members_failedPart nodes first]
          obtain excuse | same := firstHypothesis (each node List.mem_cons_self) follows
          · rw [first] at excuse
            obtain ⟨_, ⟨⟩, given⟩ := excuse
            exact Or.inl ⟨error, rfl, given⟩
          · exact Or.inr (members_failedPart nodes (same.trans first))
      | ok value =>
          rw [members_parts nodes first]
          obtain excuse | same := firstHypothesis (each node List.mem_cons_self) follows
          · rw [first] at excuse
            obtain ⟨_, ⟨⟩, _⟩ := excuse
          · rw [members_parts nodes (same.trans first)]
            obtain excuse | same := restHypothesis withinRest follows
            · exact Or.inl (excuse.map _)
            · exact Or.inr (by rw [same])
  | missingArgument chain =>
      rw [members_missingArgument, members_missingArgument]
      exact Or.inr rfl
  | readonly chain first rest inductionHypothesis =>
      rw [members_readonly, members_readonly]
      exact inductionHypothesis (within.below (.readonly (.here first))) follows
  | undeclared chain name arguments other absent =>
      have absent' := (step.find (within.isKnown other)).trans absent
      rw [members_undeclared arguments other absent, members_undeclared arguments other absent']
      exact Or.inr rfl
  | admitted chain name arguments definition other found admitted inductionHypothesis =>
      have isKnown := within.isKnown other
      have found' := (step.find isKnown).trans found
      obtain ⟨admitted', follows'⟩ := step.enter follows isKnown admitted
      rw [members_admitted arguments other found admitted,
        members_admitted arguments other found' admitted']
      exact inductionHypothesis (step.within isKnown found) follows'
  | refused chain name arguments definition other found refused =>
      have isKnown := within.isKnown other
      have found' := (step.find isKnown).trans found
      rw [members_refused arguments other found refused]
      obtain given | ⟨refused', same⟩ := step.refused follows isKnown refused
      · exact Or.inl ⟨_, rfl, given⟩
      · rw [members_refused arguments other found' refused', same]
        exact Or.inr rfl
  | notSource chain node noSource =>
      rw [members_notSource noSource, members_notSource noSource]
      exact Or.inr rfl

end Heritage

namespace Payload

/-- Walks in step reach the same payload with the same notes or fail alike, unless the failure is
excused. -/
theorem resolve_inStep
    (step : InStep config config' declarations declarations' known related excused)
    {chain chain' : Chain} {dispatch : Option Dispatch} {legacy : Option String}
    {node : TypeExpr} (within : node.Within known) (follows : related chain chain') :
    Excused excused (resolve config declarations chain dispatch legacy node).run.value ∨
      (resolve config' declarations' chain' dispatch legacy node).run =
        (resolve config declarations chain dispatch legacy node).run := by
  induction chain, dispatch, legacy, node using resolve_induction config declarations
    generalizing chain' with
  | interfaceDecl chain dispatch legacy name own heritage =>
      rw [resolve_interfaceDecl, resolve_interfaceDecl]
      obtain excuse | same := Heritage.members_inStep step within follows
      · exact Or.inl (excuse.map _)
      · exact Or.inr (by rw [same])
  | object chain dispatch legacy own =>
      rw [resolve_object, resolve_object]
      exact Or.inr rfl
  | missingArgument chain dispatch legacy =>
      rw [resolve_missingArgument, resolve_missingArgument]
      exact Or.inr rfl
  | readonly chain dispatch legacy first rest inductionHypothesis =>
      rw [resolve_readonly, resolve_readonly]
      exact inductionHypothesis (within.below (.readonly (.here first))) follows
  | noPayload chain dispatch legacy inner =>
      rw [resolve_noPayload, resolve_noPayload]
      exact Or.inr rfl
  | legacyRefused chain dispatch legacy inner payload rest error refused =>
      rw [resolve_legacyRefused dispatch legacy refused,
        resolve_legacyRefused dispatch legacy refused]
      exact Or.inr rfl
  | nullish chain dispatch legacy inner payload rest innerLegacy legal missing =>
      rw [resolve_nullish dispatch legacy legal missing,
        resolve_nullish dispatch legacy legal missing]
      exact Or.inr rfl
  | payload chain dispatch legacy inner payload rest innerLegacy legal present
      inductionHypothesis =>
      rw [resolve_payload dispatch legacy legal present,
        resolve_payload dispatch legacy legal present]
      exact inductionHypothesis (within.below (.handler inner (.here payload))) follows
  | undeclared chain dispatch legacy name arguments other noHandler absent =>
      have absent' := (step.find (within.isKnown other)).trans absent
      rw [resolve_undeclared dispatch legacy arguments other noHandler absent,
        resolve_undeclared dispatch legacy arguments other noHandler absent']
      exact Or.inr rfl
  | admitted chain dispatch legacy name arguments definition other noHandler found admitted
      inductionHypothesis =>
      have isKnown := within.isKnown other
      have found' := (step.find isKnown).trans found
      obtain ⟨admitted', follows'⟩ := step.enter follows isKnown admitted
      rw [resolve_admitted dispatch legacy arguments other noHandler found admitted,
        resolve_admitted dispatch legacy arguments other noHandler found' admitted']
      obtain excuse | same := inductionHypothesis (step.within isKnown found) follows'
      · exact Or.inl excuse
      · exact Or.inr (by rw [same])
  | refused chain dispatch legacy name arguments definition other noHandler found refused =>
      have isKnown := within.isKnown other
      have found' := (step.find isKnown).trans found
      rw [resolve_refused dispatch legacy arguments other noHandler found refused]
      obtain given | ⟨refused', same⟩ := step.refused follows isKnown refused
      · exact Or.inl ⟨_, rfl, given⟩
      · rw [resolve_refused dispatch legacy arguments other noHandler found' refused', same]
        exact Or.inr rfl
  | notSource chain dispatch legacy node noSource =>
      rw [resolve_notSource dispatch legacy noSource, resolve_notSource dispatch legacy noSource]
      exact Or.inr rfl

end Payload
end ComponentEvents
