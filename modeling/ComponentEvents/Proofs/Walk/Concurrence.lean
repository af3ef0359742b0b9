/-
This file compares the walk for a payload with the walk for members where there are no handlers.
-/

import ComponentEvents.Proofs.Walk.Refusal

namespace ComponentEvents

/-- A name that the empty chain is entered with is not mentioned again. -/
theorem Chain.mention_enter_nil {name : String} (named : name ≠ "") :
    Chain.mention (Chain.enter [] name) name = Chain.mention [] name := by
  simp [mention, enter, named]

namespace Payload

open Relation

variable {config : Config} {declarations : Declarations}

/-- These are the ways in which both walks from a node end. They collect the same members or fail
alike, the walk for members fails at an undeclared name, or the walk for a payload comes to a node
that it does not look into. -/
inductive Concurs (declarations : Declarations) (dispatch : Option Dispatch)
    (legacy : Option String) (node : TypeExpr) :
    Logged (Except ExtractionError Resolution) → Except ExtractionError (List Member) → Prop
  | alike (log : List LogEntry) (outcome : Except ExtractionError (List Member)) :
      Concurs declarations dispatch legacy node ⟨log, outcome.map (⟨some ·, dispatch, legacy⟩)⟩
        outcome
  | undeclared {name : String} {arguments : List TypeExpr} (log : List LogEntry)
      (reached : ReflTransGen (Heritage.Follows declarations) node (.reference name arguments))
      (other : name ≠ TypeExpr.readonlyName) (absent : declarations.find? name = none) :
      Concurs declarations dispatch legacy node ⟨log ++ [.undeclared name], .ok .unresolved⟩
        (Heritage.blocked (.undeclared name))
  | stopped {last : TypeExpr} {outcome : Except ExtractionError (List Member)}
      (log : List LogEntry) (reached : ReflTransGen (Heritage.Follows declarations) node last)
      (parts : (∃ parts, last = .intersection parts) ∨
        outcome = Heritage.blocked (.notFlattenable last.nodeKind)) :
      Concurs declarations dispatch legacy node
        ⟨log, Heritage.blocked (.unnamed last.nodeKind)⟩ outcome

/-- Both walks from a reference end like those from what it stands for. -/
theorem Concurs.head {dispatch : Option Dispatch} {legacy : Option String}
    {node below : TypeExpr} {run : Logged (Except ExtractionError Resolution)}
    {outcome : Except ExtractionError (List Member)}
    (follows : Heritage.Follows declarations node below) (notes : List LogEntry)
    (concurs : Concurs declarations dispatch legacy below run outcome) :
    Concurs declarations dispatch legacy node ⟨notes ++ run.log, run.value⟩ outcome := by
  cases concurs with
  | alike log outcome => exact .alike (notes ++ log) outcome
  | undeclared log reached other absent =>
      rw [← List.append_assoc]
      exact .undeclared (notes ++ log) (reached.head follows) other absent
  | stopped log reached parts => exact .stopped (notes ++ log) (reached.head follows) parts

section Concurs

variable {dispatch : Option Dispatch} {legacy : Option String} {node : TypeExpr}
  {run : Logged (Except ExtractionError Resolution)}
  {outcome : Except ExtractionError (List Member)}

/-- The walk for members collects the members of a payload. -/
theorem Concurs.collected (concurs : Concurs declarations dispatch legacy node run outcome)
    {resolution : Resolution} {found : List Member} (resolved : run.value = .ok resolution)
    (complete : resolution.members = some found) : outcome = .ok found := by
  cases concurs with
  | alike log outcome =>
      cases outcome with
      | error error => cases resolved
      | ok members =>
          cases resolved
          exact congrArg Except.ok (Option.some.inj complete)
  | undeclared =>
      cases resolved
      cases complete
  | stopped => cases resolved

/-- Where a payload is not known, the walk for members fails at the name. -/
theorem Concurs.exists_undeclared (concurs : Concurs declarations dispatch legacy node run outcome)
    (unresolved : run.value = .ok .unresolved) :
    ∃ name arguments,
      ReflTransGen (Heritage.Follows declarations) node (.reference name arguments) ∧
      name ≠ TypeExpr.readonlyName ∧ declarations.find? name = none ∧
      run.log.getLast? = some (.undeclared name) ∧
      outcome = .error (.ofCause (.obstacle (.undeclared name))) := by
  cases concurs with
  | alike log outcome => cases outcome <;> cases unresolved
  | undeclared log reached other absent =>
      exact ⟨_, _, reached, other, absent, List.getLast?_concat, rfl⟩
  | stopped => cases unresolved

/-- A refusal of the walk for a payload is one of the walk for members. -/
theorem Concurs.refused (concurs : Concurs declarations dispatch legacy node run outcome)
    {error : ExtractionError} (failed : run.value = .error error) (loop : error.IsLoop) :
    outcome = .error error := by
  cases concurs with
  | alike => exact Except.map_eq_error_iff.mp failed
  | undeclared => cases failed
  | stopped =>
      cases failed
      exact (ExtractionError.not_isLoop_obstacle _ loop).elim

/-- The walk for members collects more than a payload only behind an intersection. -/
theorem Concurs.resolved (concurs : Concurs declarations dispatch legacy node run outcome)
    {found : List Member} (collected : outcome = .ok found)
    (noParts : ∀ parts,
      ¬ReflTransGen (Heritage.Follows declarations) node (.intersection parts)) :
    run.value = .ok ⟨some found, dispatch, legacy⟩ := by
  cases concurs with
  | alike =>
      subst collected
      rfl
  | undeclared => cases collected
  | stopped log reached parts =>
      obtain ⟨parts, rfl⟩ | rfl := parts
      · exact (noParts parts reached).elim
      · cases collected

end Concurs

/-- A node that the walk for a payload does not look into is an intersection, or the walk for
members does not look into it either. -/
theorem concurs_of_notSource (chain : Chain) (dispatch : Option Dispatch) (legacy : Option String)
    {node : TypeExpr} (noSource : isSource node = false) :
    Concurs declarations dispatch legacy node
      (resolve config declarations chain dispatch legacy node).run
      (Heritage.members config declarations chain node) := by
  rw [resolve_notSource dispatch legacy noSource]
  refine .stopped [] .refl ?_
  cases node with
  | intersection parts => exact Or.inl ⟨parts, rfl⟩
  | object | interfaceDecl | reference => cases noSource
  | _ => exact Or.inr (Heritage.members_notSource rfl)

/-- Where a walk meets no handlers, both walks from a node concur. -/
theorem resolve_concurs
    (plainTable : ∀ {name definition}, declarations.find? name = some definition →
      definition.unaliased.Plain)
    (chain : Chain) (dispatch : Option Dispatch) (legacy : Option String) {node : TypeExpr}
    (plain : node.Plain) :
    Concurs declarations dispatch legacy node
      (resolve config declarations chain dispatch legacy node).run
      (Heritage.members config declarations chain node) := by
  induction chain, dispatch, legacy, node using resolve_induction config declarations with
  | interfaceDecl chain dispatch legacy name own heritage =>
      rw [resolve_interfaceDecl]
      exact .alike [] _
  | object chain dispatch legacy own =>
      rw [resolve_object, Heritage.members_object]
      exact .alike [] (.ok own)
  | missingArgument chain dispatch legacy =>
      rw [resolve_missingArgument, Heritage.members_missingArgument]
      exact .alike [] (Heritage.blocked _)
  | readonly chain dispatch legacy first rest inductionHypothesis =>
      rw [resolve_readonly, Heritage.members_readonly]
      have plainFirst : first.Plain := fun name arguments leads =>
        plain name arguments (.readonly leads)
      exact (inductionHypothesis plainFirst).head (.readonly first rest) []
  | noPayload | legacyRefused | nullish | payload =>
      cases plain.noHandler.symm.trans (Dispatch.ofWrapperName?_wrapperName _)
  | undeclared chain dispatch legacy name arguments other noHandler absent =>
      rw [resolve_undeclared dispatch legacy arguments other noHandler absent,
        Heritage.members_undeclared arguments other absent]
      exact .undeclared [] .refl other absent
  | admitted chain dispatch legacy name arguments definition other noHandler found admitted
      inductionHypothesis =>
      rw [resolve_admitted dispatch legacy arguments other noHandler found admitted,
        Heritage.members_admitted arguments other found admitted]
      exact (inductionHypothesis (plainTable found)).head (.declared arguments other found)
        [.resolved name definition.unaliased.nodeKind]
  | refused chain dispatch legacy name arguments definition other noHandler found refused =>
      rw [resolve_refused dispatch legacy arguments other noHandler found refused,
        Heritage.members_refused arguments other found refused]
      exact .alike [] (.error _)
  | notSource chain dispatch legacy node noSource =>
      exact concurs_of_notSource chain dispatch legacy noSource

/-- The walk to a declared interface collects what the interface has and inherits by itself. -/
theorem resolve_interface (dispatch : Option Dispatch) (legacy : Option String) {name : String}
    {own : List Member} {heritage : List TypeExpr} (arguments : List TypeExpr) (named : name ≠ "")
    (other : name ≠ TypeExpr.readonlyName) (noHandler : Dispatch.ofWrapperName? name = none)
    (found : declarations.find? name = some (.interfaceDecl name own heritage)) :
    (resolve config declarations [] dispatch legacy (.reference name arguments)).run.value =
      (Heritage.members config declarations [] (.interfaceDecl name own heritage)).map
        (⟨some ·, dispatch, legacy⟩) := by
  have admitted : config.Admits [] name := ⟨by simp, config.positive⟩
  rw [resolve_admitted dispatch legacy arguments other noHandler found admitted]
  simp only [TypeExpr.unaliased]
  rw [resolve_interfaceDecl, Heritage.members_interfaceDecl, Heritage.members_interfaceDecl,
    Chain.mention_enter_nil named]

/-- Where a walk meets no handlers, the walk for members collects the members of a payload, fails at
the name that a payload is not known for, and is refused like the walk for the payload. It finds
more only in intersections, and a declared interface is flattened to the payload under its name. -/
theorem resolve_members (config : Config)
    (plainTable : ∀ {name definition}, declarations.find? name = some definition →
      definition.unaliased.Plain)
    {node : TypeExpr} (plain : node.Plain) (chain : Chain) (dispatch : Option Dispatch)
    (legacy : Option String) :
    let payload := (resolve config declarations chain dispatch legacy node).run
    let members := Heritage.members config declarations chain node
    (∀ resolution found, payload.value = .ok resolution → resolution.members = some found →
      members = .ok found) ∧
    (payload.value = .ok .unresolved →
      ∃ name arguments,
        ReflTransGen (Heritage.Follows declarations) node (.reference name arguments) ∧
        name ≠ TypeExpr.readonlyName ∧ declarations.find? name = none ∧
        payload.log.getLast? = some (.undeclared name) ∧
        members = .error (.ofCause (.obstacle (.undeclared name)))) ∧
    (∀ error, payload.value = .error error → error.IsLoop → members = .error error) ∧
    (∀ found, members = .ok found →
      (∀ parts, ¬ReflTransGen (Heritage.Follows declarations) node (.intersection parts)) →
        payload.value = .ok ⟨some found, dispatch, legacy⟩) ∧
    ∀ name own heritage arguments, name ≠ "" → name ≠ TypeExpr.readonlyName →
      Dispatch.ofWrapperName? name = none →
        declarations.find? name = some (.interfaceDecl name own heritage) →
          (resolve config declarations [] dispatch legacy (.reference name arguments)).run.value =
            (Heritage.members config declarations [] (.interfaceDecl name own heritage)).map
              (⟨some ·, dispatch, legacy⟩) := by
  intro payload members
  have concurs : Concurs declarations dispatch legacy node payload members :=
    resolve_concurs plainTable chain dispatch legacy plain
  exact ⟨fun _ _ => concurs.collected, concurs.exists_undeclared, fun _ => concurs.refused,
    fun _ => concurs.resolved, fun _ _ _ arguments => resolve_interface dispatch legacy arguments⟩

/-- The interface that inherits from itself is refused in both walks and by itself, and the object
beside it is found in both. -/
theorem resolve_members_selfInheriting :
    let config : Config := ⟨3, true, true, by decide⟩
    let event : TypeExpr := .reference "Event" []
    let object : TypeExpr := .reference "Payload" []
    let error := ExtractionError.ofCause (.loop .cyclic ["Event", "Base", "Event"])
    (∀ {name definition}, selfInheriting.find? name = some definition →
      definition.unaliased.Plain) ∧ event.Plain ∧ object.Plain ∧
    (resolve config selfInheriting [] (some .direct) none event).run.value = .error error ∧
    Heritage.members config selfInheriting [] event = .error error ∧
    Heritage.members config selfInheriting []
      (.interfaceDecl "Event" [] [.reference "Base" []]) = .error error ∧
    (resolve config selfInheriting [] none none object).run.value =
      .ok ⟨some [.method "persist"], none, none⟩ ∧
    Heritage.members config selfInheriting [] object = .ok [.method "persist"] := by
  intro config event object error
  have plainTable : ∀ {name definition}, selfInheriting.find? name = some definition →
      definition.unaliased.Plain := closed_selfInheriting.plain
  have plain : ∀ name, Dispatch.ofWrapperName? name = none →
      (TypeExpr.reference name []).Plain := by
    intro name noHandler other arguments leads
    cases TypeExpr.leads_name_iff.mp leads
    exact noHandler
  have refused : (resolve config selfInheriting [] (some .direct) none event).run.value =
      .error error := by
    have handler := resolve_selfInheritingHandler_cyclic config rfl (by decide)
    rwa [selfInheritingHandler, resolve_payload none none rfl rfl] at handler
  have collected : Heritage.members config selfInheriting [] object = .ok [.method "persist"] := by
    rw [Heritage.members_admitted [] (by decide) rfl (by decide)]
    exact Heritage.members_object _ _ _ _
  have noParts : ∀ parts, ¬ReflTransGen (Heritage.Follows selfInheriting)
      (.reference "Payload" []) (.intersection parts) := by
    intro parts reached
    obtain same | ⟨below, follows, reached⟩ := ReflTransGen.cases_head reached
    · cases same
    · obtain ⟨_, ⟨⟩, rfl⟩ := follows.exists_of_other (by decide)
      obtain same | ⟨_, follows, _⟩ := ReflTransGen.cases_head reached
      · cases same
      · cases follows
  obtain ⟨-, -, loops, -, flattened⟩ :=
    resolve_members config plainTable (plain "Event" rfl) [] (some .direct) none
  obtain ⟨-, -, -, found, -⟩ := resolve_members config plainTable (plain "Payload" rfl) [] none none
  have interface := flattened "Event" [] [.reference "Base" []] [] (by decide) (by decide) rfl rfl
  rw [refused] at interface
  exact ⟨plainTable, plain "Event" rfl, plain "Payload" rfl, refused,
    loops error refused ⟨_, _, rfl⟩, Except.map_eq_error_iff.mp interface.symm,
    found _ collected noParts, collected⟩

end Payload
end ComponentEvents
