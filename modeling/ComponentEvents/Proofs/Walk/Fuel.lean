/-
This file holds the walk with a bound on its nested calls and shows which bound it never reaches.
-/

import ComponentEvents.Proofs.Walk.Members
import ComponentEvents.Proofs.Walk.Nesting
import ComponentEvents.Proofs.Walk.Payload
import ComponentEvents.Proofs.Walk.Refusal
import Mathlib.Order.WellFounded

namespace ComponentEvents

/-- An attempt has the outcome, or it has none where something was not enough. -/
def Attains {α : Type} (enough : Prop) (attempt : Option α) (outcome : α) : Prop :=
  attempt = some outcome ∨ attempt = none ∧ ¬enough

namespace Attains

variable {ε α β : Type} {enough enough' : Prop}

theorem of_eq {attempt : Option α} {outcome : α} (same : attempt = some outcome) :
    Attains enough attempt outcome :=
  Or.inl same

theorem weaken {attempt : Option α} {outcome : α} (attained : Attains enough attempt outcome)
    (given : enough' → enough) : Attains enough' attempt outcome :=
  attained.imp_right fun missed => ⟨missed.1, missed.2 ∘ given⟩

theorem map {attempt : Option α} {outcome : α} (attained : Attains enough attempt outcome)
    (change : α → β) : Attains enough (attempt.map change) (change outcome) := by
  obtain rfl | ⟨rfl, missed⟩ := attained
  · exact Or.inl rfl
  · exact Or.inr ⟨rfl, missed⟩

theorem bind {first : ExceptT ε Option α} {outcome : Except ε α}
    {next : α → ExceptT ε Option β} {next' : α → Except ε β}
    (attained : Attains enough first.run outcome)
    (goesOn : ∀ value, Attains enough (next value).run (next' value)) :
    Attains enough (first >>= next).run (outcome >>= next') := by
  unfold Attains
  rw [ExceptT.run_bind]
  obtain same | ⟨same, missed⟩ := attained
  · rw [same]
    cases outcome with
    | error error => exact Or.inl rfl
    | ok value => exact goesOn value
  · rw [same]
    exact Or.inr ⟨rfl, missed⟩

theorem mapM {attempt : α → ExceptT ε Option β} {outcome : α → Except ε β} {elements : List α}
    (each : ∀ element ∈ elements, Attains enough (attempt element).run (outcome element)) :
    Attains enough (elements.mapM attempt).run (elements.mapM outcome) := by
  induction elements with
  | nil => exact of_eq rfl
  | cons element elements inductionHypothesis =>
      obtain ⟨first, rest⟩ := List.forall_mem_cons.mp each
      rw [List.mapM_cons, List.mapM_cons]
      refine first.bind fun value => ?_
      exact (inductionHypothesis rest).bind fun values => of_eq rfl

end Attains

namespace Heritage

theorem membersOfAll_eq (config : Config) (declarations : Declarations) (chain : Chain)
    (nodes : List TypeExpr) :
    membersOfAll config declarations chain nodes =
      (nodes.mapM (members config declarations chain) >>= fun found => pure found.flatten) := by
  induction nodes with
  | nil => rw [membersOfAll]; rfl
  | cons node nodes inductionHypothesis =>
      rw [membersOfAll, inductionHypothesis, List.mapM_cons]
      simp only [bind_assoc, pure_bind, List.flatten_cons]

mutual

/-- This is the flattening of an interface where each nested call takes one from the fuel. -/
def flattenWithin (config : Config) (declarations : Declarations) :
    Nat → Chain → String → List Member → List TypeExpr →
      ExceptT ExtractionError Option (List Member)
  | 0, _, _, _, _ => ExceptT.mk none
  | fuel + 1, chain, name, own, heritage => do
      let inherited ← heritage.mapM (membersWithin config declarations fuel (chain.mention name))
      return inherited.flatten ++ own

/-- This is the walk for members where each nested call takes one from the fuel. -/
def membersWithin (config : Config) (declarations : Declarations) :
    Nat → Chain → TypeExpr → ExceptT ExtractionError Option (List Member)
  | 0, _, _ => ExceptT.mk none
  | _ + 1, _, .object own => return own
  | fuel + 1, chain, .interfaceDecl name own heritage =>
      flattenWithin config declarations fuel chain name own heritage
  | fuel + 1, chain, .intersection parts => do
      let found ← parts.mapM (membersWithin config declarations fuel chain)
      return found.flatten
  | fuel + 1, chain, .reference name arguments =>
      if name = TypeExpr.readonlyName then
        match arguments with
        | [] => ExceptT.mk (some (blocked (.missingArgument name)))
        | first :: _ => membersWithin config declarations fuel chain first
      else
        match declarations.find? name with
        | none => ExceptT.mk (some (blocked (.undeclared name)))
        | some definition =>
            if config.Admits chain name then
              match definition.unaliased with
              | .interfaceDecl inner own heritage =>
                  flattenWithin config declarations fuel (chain.enter name) inner own heritage
              | other => membersWithin config declarations fuel (chain.enter name) other
            else throw (chain.refusal config name)
  | _ + 1, _, node => ExceptT.mk (some (blocked (.notFlattenable node.nodeKind)))

end

/-- With this fuel a walk has its outcome wherever the fuel is not below its rank. -/
structure Attained (config : Config) (declarations : Declarations) (fuel : Nat) : Prop where
  flattening : ∀ chain name own heritage,
    Attains (Call.rank config declarations ⟨.flattening, chain, .interfaceDecl name own heritage⟩ ≤
        fuel)
      (flattenWithin config declarations fuel chain name own heritage).run
      (members config declarations chain (.interfaceDecl name own heritage))
  walk : ∀ chain node,
    Attains (Call.rank config declarations ⟨.members, chain, node⟩ ≤ fuel)
      (membersWithin config declarations fuel chain node).run
      (members config declarations chain node)

namespace Attained

variable {config : Config} {declarations : Declarations} {fuel : Nat}

theorem zero : Attained config declarations 0 where
  flattening chain name own heritage := by
    refine Or.inr ⟨?_, Nat.not_le_of_lt (Call.rank_pos _)⟩
    rw [flattenWithin]
    rfl
  walk chain node := by
    refine Or.inr ⟨?_, Nat.not_le_of_lt (Call.rank_pos _)⟩
    rw [membersWithin]
    rfl

theorem flattening_succ (attained : Attained config declarations fuel) (chain : Chain)
    (name : String) (own : List Member) (heritage : List TypeExpr) :
    Attains (Call.rank config declarations ⟨.flattening, chain, .interfaceDecl name own heritage⟩ ≤
        fuel + 1)
      (flattenWithin config declarations (fuel + 1) chain name own heritage).run
      (members config declarations chain (.interfaceDecl name own heritage)) := by
  rw [flattenWithin, members, membersOfAll_eq, bind_assoc]
  refine Attains.bind (.mapM fun entry member => ?_) fun inherited => .of_eq rfl
  have descends : Call.Descends _ _ := .entry chain name own member
  exact (attained.walk _ entry).weaken descends.nests.rank_le

theorem readonly_succ (attained : Attained config declarations fuel) (chain : Chain)
    (arguments : List TypeExpr) :
    Attains
      (Call.rank config declarations
        ⟨.members, chain, .reference TypeExpr.readonlyName arguments⟩ ≤ fuel + 1)
      (membersWithin config declarations (fuel + 1) chain
        (.reference TypeExpr.readonlyName arguments)).run
      (members config declarations chain (.reference TypeExpr.readonlyName arguments)) := by
  cases arguments with
  | nil =>
      rw [membersWithin, if_pos rfl, members_missingArgument]
      exact .of_eq rfl
  | cons first rest =>
      have descends : Call.Descends ⟨.members, _, _⟩ _ := .readonly (by decide) chain first rest
      rw [membersWithin, if_pos rfl, members_readonly]
      exact (attained.walk chain first).weaken descends.nests.rank_le

/-- The fuel that is left is enough below a name that is entered, because one name fewer may be
entered there. -/
theorem declared_succ (attained : Attained config declarations fuel) (chain : Chain) {name : String}
    {definition : TypeExpr} (arguments : List TypeExpr) (other : name ≠ TypeExpr.readonlyName)
    (found : declarations.find? name = some definition) :
    Attains (Call.rank config declarations ⟨.members, chain, .reference name arguments⟩ ≤ fuel + 1)
      (membersWithin config declarations (fuel + 1) chain (.reference name arguments)).run
      (members config declarations chain (.reference name arguments)) := by
  by_cases admitted : config.Admits chain name
  · have looksUp : Call.LooksUp config declarations ⟨.members, _, _⟩ _ :=
      .enter arguments found admitted
    have entered : membersWithin config declarations (fuel + 1) chain (.reference name arguments) =
        match definition.unaliased with
        | .interfaceDecl inner own heritage =>
            flattenWithin config declarations fuel (chain.enter name) inner own heritage
        | node => membersWithin config declarations fuel (chain.enter name) node := by
      cases arguments <;> rw [membersWithin, if_neg other, found] <;> exact if_pos admitted
    rw [members_admitted arguments other found admitted, entered]
    generalize definition.unaliased = node at looksUp
    cases node with
    | interfaceDecl inner own heritage =>
        exact (attained.flattening _ inner own heritage).weaken looksUp.nests.rank_le
    | _ => exact (attained.walk _ _).weaken looksUp.nests.rank_le
  · have refused : membersWithin config declarations (fuel + 1) chain (.reference name arguments) =
        throw (chain.refusal config name) := by
      cases arguments <;> rw [membersWithin, if_neg other, found] <;> exact if_neg admitted
    rw [members_refused arguments other found admitted, refused]
    exact .of_eq rfl

theorem succ (attained : Attained config declarations fuel) :
    Attained config declarations (fuel + 1) where
  flattening := attained.flattening_succ
  walk chain node := by
    cases node with
    | object own =>
        rw [membersWithin, members_object]
        exact .of_eq rfl
    | interfaceDecl name own heritage =>
        have descends : Call.Descends ⟨.members, _, _⟩ _ :=
          .interface (by decide) chain name own heritage
        rw [membersWithin]
        exact (attained.flattening chain name own heritage).weaken descends.nests.rank_le
    | intersection parts =>
        rw [membersWithin, members, membersOfAll_eq]
        refine Attains.bind (.mapM fun part member => ?_) fun found => .of_eq rfl
        have descends : Call.Descends _ _ := .part chain member
        exact (attained.walk chain part).weaken descends.nests.rank_le
    | reference name arguments =>
        by_cases readonly : name = TypeExpr.readonlyName
        · subst readonly
          exact attained.readonly_succ chain arguments
        · cases found : declarations.find? name with
          | none =>
              rw [members_undeclared arguments readonly found]
              cases arguments <;> rw [membersWithin, if_neg readonly, found] <;> exact .of_eq rfl
          | some definition => exact attained.declared_succ chain arguments readonly found
    | _ =>
        rw [members_notSource rfl]
        exact .of_eq rfl

end Attained

theorem attained (config : Config) (declarations : Declarations) (fuel : Nat) :
    Attained config declarations fuel := by
  induction fuel with
  | zero => exact .zero
  | succ fuel inductionHypothesis => exact inductionHypothesis.succ

end Heritage

namespace Payload

open Extraction

/-- This is the walk to a payload where each nested call takes one from the fuel. -/
def resolveWithin (config : Config) (declarations : Declarations) :
    Nat → Chain → Option Dispatch → Option String → TypeExpr → Option (Extraction Resolution)
  | 0, _, _, _, _ => none
  | fuel + 1, chain, dispatch, legacy, .interfaceDecl name own heritage =>
      (Heritage.flattenWithin config declarations fuel chain name own heritage).run.map
        fun found => do
          let members ← ofExcept found
          return ⟨some members, dispatch, legacy⟩
  | _ + 1, _, dispatch, legacy, .object own => some (return ⟨some own, dispatch, legacy⟩)
  | fuel + 1, chain, dispatch, legacy, .reference name arguments =>
      if name = TypeExpr.readonlyName then
        match arguments with
        | [] => some (fail (.obstacle (.missingArgument name)))
        | first :: _ => resolveWithin config declarations fuel chain dispatch legacy first
      else
        match Dispatch.ofWrapperName? name with
        | some inner =>
            match arguments with
            | [] => some (fail (.obstacle (.missingArgument name)))
            | payload :: rest =>
                match legacyName name (payload :: rest) with
                | .error error => some (throw error)
                | .ok innerLegacy =>
                    if payload.isNullish then some (return ⟨some [], some inner, innerLegacy⟩)
                    else
                      resolveWithin config declarations fuel chain (some inner) innerLegacy payload
        | none =>
            match declarations.find? name with
            | none => some do
                note (.undeclared name)
                return .unresolved
            | some definition =>
                if config.Admits chain name then
                  (resolveWithin config declarations fuel (chain.enter name) dispatch legacy
                    definition.unaliased).map fun below => do
                      note (.resolved name definition.unaliased.nodeKind)
                      below
                else some (throw (chain.refusal config name))
  | _ + 1, _, _, _, other => some (fail (.obstacle (.unnamed other.nodeKind)))

variable {config : Config} {declarations : Declarations}

theorem resolveWithin_handler (fuel : Nat) (chain : Chain) (dispatch : Option Dispatch)
    (legacy : Option String) (inner : Dispatch) (payload : TypeExpr) (rest : List TypeExpr) :
    resolveWithin config declarations (fuel + 1) chain dispatch legacy
        (.reference inner.wrapperName (payload :: rest)) =
      match legacyName inner.wrapperName (payload :: rest) with
      | .error error => some (throw error)
      | .ok innerLegacy =>
          if payload.isNullish then some (return ⟨some [], some inner, innerLegacy⟩)
          else resolveWithin config declarations fuel chain (some inner) innerLegacy payload := by
  rw [resolveWithin, if_neg inner.wrapperName_ne_readonlyName, Dispatch.ofWrapperName?_wrapperName]

/-- Without fuel there is no outcome, and every rank is above it. -/
theorem attains_of_succ {chain : Chain} {dispatch : Option Dispatch} {legacy : Option String}
    {node : TypeExpr}
    (each : ∀ fuel, Attains (Call.rank config declarations ⟨.payload, chain, node⟩ ≤ fuel + 1)
      (resolveWithin config declarations (fuel + 1) chain dispatch legacy node)
      (resolve config declarations chain dispatch legacy node)) (fuel : Nat) :
    Attains (Call.rank config declarations ⟨.payload, chain, node⟩ ≤ fuel)
      (resolveWithin config declarations fuel chain dispatch legacy node)
      (resolve config declarations chain dispatch legacy node) := by
  cases fuel with
  | zero =>
      refine Or.inr ⟨?_, Nat.not_le_of_lt (Call.rank_pos _)⟩
      rw [resolveWithin]
  | succ fuel => exact each fuel

theorem attains_within (chain : Chain) (dispatch : Option Dispatch) (legacy : Option String)
    (node : TypeExpr) (fuel : Nat) :
    Attains (Call.rank config declarations ⟨.payload, chain, node⟩ ≤ fuel + 1)
      (resolveWithin config declarations (fuel + 1) chain dispatch legacy node)
      (resolve config declarations chain dispatch legacy node) := by
  induction chain, dispatch, legacy, node using resolve_induction config declarations
    generalizing fuel with
  | interfaceDecl chain dispatch legacy name own heritage =>
      have descends : Call.Descends ⟨.payload, _, _⟩ _ :=
        .interface (by decide) chain name own heritage
      have flattened :=
        (Heritage.attained config declarations fuel).flattening chain name own heritage
      rw [resolveWithin, resolve]
      exact (flattened.weaken descends.nests.rank_le).map _
  | object chain dispatch legacy own =>
      rw [resolveWithin, resolve]
      exact .of_eq rfl
  | missingArgument chain dispatch legacy =>
      rw [resolveWithin, resolve, if_pos rfl, if_pos rfl]
      exact .of_eq rfl
  | readonly chain dispatch legacy first rest inductionHypothesis =>
      have descends : Call.Descends ⟨.payload, _, _⟩ _ := .readonly (by decide) chain first rest
      rw [resolveWithin, if_pos rfl, resolve_readonly]
      exact (attains_of_succ inductionHypothesis fuel).weaken descends.nests.rank_le
  | noPayload chain dispatch legacy inner =>
      rw [resolveWithin, resolve, if_neg inner.wrapperName_ne_readonlyName,
        if_neg inner.wrapperName_ne_readonlyName, Dispatch.ofWrapperName?_wrapperName]
      exact .of_eq rfl
  | legacyRefused chain dispatch legacy inner payload rest error refused =>
      rw [resolveWithin_handler, resolve_handler, refused]
      exact .of_eq rfl
  | nullish chain dispatch legacy inner payload rest innerLegacy legal missing =>
      rw [resolveWithin_handler, resolve_handler, legal, missing]
      exact .of_eq rfl
  | payload chain dispatch legacy inner payload rest innerLegacy legal present
      inductionHypothesis =>
      have descends : Call.Descends _ _ := .payload chain inner payload rest
      rw [resolveWithin_handler, resolve_handler, legal, present]
      exact (attains_of_succ inductionHypothesis fuel).weaken descends.nests.rank_le
  | undeclared chain dispatch legacy name arguments other noHandler absent =>
      cases arguments <;>
        rw [resolveWithin, resolve, if_neg other, if_neg other, noHandler, absent] <;>
        exact .of_eq rfl
  | admitted chain dispatch legacy name arguments definition other noHandler found admitted
      inductionHypothesis =>
      have looksUp : Call.LooksUp config declarations ⟨.payload, _, _⟩ _ :=
        .enter arguments found admitted
      have entered := (attains_of_succ inductionHypothesis fuel).weaken looksUp.nests.rank_le
      cases arguments <;>
        rw [resolveWithin, resolve, if_neg other, if_neg other, noHandler, found] <;>
        simp only [if_pos admitted, dif_pos admitted] <;> exact entered.map _
  | refused chain dispatch legacy name arguments definition other noHandler found refused =>
      cases arguments <;>
        rw [resolveWithin, resolve, if_neg other, if_neg other, noHandler, found] <;>
        simp only [if_neg refused, dif_neg refused] <;> exact .of_eq rfl
  | notSource chain dispatch legacy node noSource =>
      cases node with
      | object | interfaceDecl | reference => cases noSource
      | _ =>
          simp only [resolveWithin, resolve]
          exact .of_eq rfl

/-- No sequence of nested calls goes on for ever. It looks up no more names than the limit allows,
and between two look-ups it goes to a proper part or to the flattening of the interface it is at.
Where nested calls are counted, a number that only the limit and the sizes decide is always enough,
and with less there is the same outcome or none. -/
theorem resolve_ends (config : Config) (declarations : Declarations) :
    (¬∃ calls : Nat → Call, ∀ index,
      (calls index).Nests config declarations (calls (index + 1))) ∧
    (∀ lookUps first last, Call.Path config declarations lookUps first last →
      lookUps ≤ config.aliasLimit) ∧
    (∀ call below, Call.Descends call below → call.Inside below) ∧
    ∀ fuel chain node,
      (∀ dispatch legacy, Attains (config.fuelFor declarations node ≤ fuel)
        (resolveWithin config declarations fuel chain dispatch legacy node)
        (resolve config declarations chain dispatch legacy node)) ∧
      Attains (config.fuelFor declarations node ≤ fuel)
        (Heritage.membersWithin config declarations fuel chain node).run
        (Heritage.members config declarations chain node) ∧
      ∀ name own heritage, node = .interfaceDecl name own heritage →
        Attains (config.fuelFor declarations node ≤ fuel)
          (Heritage.flattenWithin config declarations fuel chain name own heritage).run
          (Heritage.members config declarations chain node) := by
  refine ⟨?_, fun _ _ _ => Call.Path.lookUps_le, fun _ _ => Call.Descends.inside, ?_⟩
  · rintro ⟨calls, nested⟩
    have wellFounded := Call.wellFounded_nests config declarations
    exact (wellFounded_iff_isEmpty_descending_chain.mp wellFounded).false ⟨calls, nested⟩
  · intro fuel chain node
    have enough : ∀ stage, config.fuelFor declarations node ≤ fuel →
        Call.rank config declarations ⟨stage, chain, node⟩ ≤ fuel :=
      fun stage => Nat.le_trans (Call.rank_le_fuelFor _)
    have attained := Heritage.attained config declarations fuel
    refine ⟨fun dispatch legacy => ?_, (attained.walk chain node).weaken (enough .members), ?_⟩
    · exact (attains_of_succ (attains_within chain dispatch legacy node) fuel).weaken
        (enough .payload)
    · rintro name own heritage rfl
      exact (attained.flattening chain name own heritage).weaken (enough .flattening)

/-- Where cycles are not detected, the limit ends the walk from an interface that inherits from
itself, and its nested calls are counted beforehand. -/
theorem resolve_ends_selfInheriting :
    let config : Config := ⟨2, false, true, by decide⟩
    let start : Call := ⟨.payload, [], selfInheritingHandler⟩
    let parts : TypeExpr := .intersection [
      .reference "Payload" [], .reference TypeExpr.readonlyName [.reference "Event" []]]
    let last : Call := ⟨.members, ["Event", "Base"], parts⟩
    let part : Call := ⟨.members, ["Event", "Base"], .reference "Payload" []⟩
    Call.Path config selfInheriting 2 start last ∧ 2 ≤ config.aliasLimit ∧
      Call.Descends last part ∧ last.Inside part ∧
      config.fuelFor selfInheriting selfInheritingHandler = 41 ∧
      ∃ run, resolveWithin config selfInheriting 41 [] none none selfInheritingHandler = some run ∧
        run.run.value = .error (.ofCause (.loop (.tooDeep 2) ["Event", "Base", "Payload"])) := by
  intro config start parts last part
  have event : config.Admits [] "Event" := by decide
  have base : config.Admits ["Event"] "Base" := by decide
  have found : selfInheriting.find? "Base" = some (.aliasDecl "Base" parts) := rfl
  have toPayload : Call.Path config selfInheriting 0 start
      ⟨.payload, [], .reference "Event" []⟩ :=
    .descend (.here start) (.payload [] .direct (.reference "Event" []) [])
  have toInterface : Call.Path config selfInheriting 1 start
      ⟨.flattening, ["Event"], .interfaceDecl "Event" [] [.reference "Base" []]⟩ :=
    .descend (.lookUp toPayload (.enter [] rfl event))
      (.interface (by decide) ["Event"] "Event" [] [.reference "Base" []])
  have toEntry : Call.Path config selfInheriting 1 start
      ⟨.members, ["Event"], .reference "Base" []⟩ :=
    .descend toInterface (.entry ["Event"] "Event" [] List.mem_cons_self)
  have path : Call.Path config selfInheriting 2 start last :=
    .lookUp toEntry (.enter [] found base)
  have descends : Call.Descends last part := .part _ List.mem_cons_self
  obtain ⟨-, lookUps, inside, enough⟩ := resolve_ends config selfInheriting
  have fuel : config.fuelFor selfInheriting selfInheritingHandler = 41 := by decide
  obtain same | ⟨-, short⟩ := (enough 41 [] selfInheritingHandler).1 none none
  · exact ⟨path, lookUps _ _ _ path, descends, inside _ _ descends, fuel, _, same,
      resolve_selfInheritingHandler_tooDeep config rfl⟩
  · exact absurd (Nat.le_of_eq fuel) short

end Payload
end ComponentEvents
