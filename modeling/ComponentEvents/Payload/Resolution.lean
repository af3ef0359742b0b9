/-
This file finds the members of the payload of an event.
-/

import ComponentEvents.Dispatch
import ComponentEvents.Extraction.Basic
import ComponentEvents.Heritage

namespace ComponentEvents

/-- A part that was not found is missing. -/
structure Resolution where
  members : Option (List Member)
  dispatch : Option Dispatch
  legacyName : Option String

namespace Resolution

/-- This is the resolution of a type that is not declared. -/
def unresolved : Resolution := ⟨none, none, none⟩

/-- A resolution is complete when both the members and the dispatch are known. -/
def isResolved (resolution : Resolution) : Bool :=
  resolution.members.isSome && resolution.dispatch.isSome

def isUnresolved (resolution : Resolution) : Bool :=
  resolution.members.isNone && resolution.dispatch.isNone && resolution.legacyName.isNone

end Resolution

namespace Payload

open Extraction

/-- The second argument of a handler, if there is one, is its legacy name. -/
def legacyName (name : String) (arguments : List TypeExpr) :
    Except ExtractionError (Option String) :=
  match arguments with
  | _ :: second :: _ =>
      match second.stringLiteral? with
      | some legacy => .ok (some legacy)
      | none =>
          Heritage.blocked (.legacyNameNotText (TypeExpr.text (.reference name arguments)))
  | _ => .ok none

/-- A handler sets the dispatch and the legacy name for what lies inside it, and a nullish payload
has no members. Names are looked up until members are reached or a name is not declared. -/
def resolve (config : Config) (declarations : Declarations) (chain : Chain)
    (dispatch : Option Dispatch) (legacy : Option String) (node : TypeExpr) :
    Extraction Resolution :=
  match node with
  | .interfaceDecl name own heritage => do
      let members ← ofExcept
        (Heritage.members config declarations chain (.interfaceDecl name own heritage))
      return ⟨some members, dispatch, legacy⟩
  | .object own => return ⟨some own, dispatch, legacy⟩
  | .reference name arguments =>
      if name = TypeExpr.readonlyName then
        match arguments with
        | [] => fail (.obstacle (.missingArgument name))
        | first :: _ => resolve config declarations chain dispatch legacy first
      else
        match Dispatch.ofWrapperName? name with
        | some inner =>
            match arguments with
            | [] => fail (.obstacle (.missingArgument name))
            | payload :: rest => do
                let innerLegacy ← ofExcept (legacyName name (payload :: rest))
                if payload.isNullish then return ⟨some [], some inner, innerLegacy⟩
                else resolve config declarations chain (some inner) innerLegacy payload
        | none =>
            match declarations.find? name with
            | none => do
                note (.undeclared name)
                return .unresolved
            | some definition =>
                if _admitted : config.Admits chain name then do
                  note (.resolved name definition.unaliased.nodeKind)
                  resolve config declarations (chain.enter name) dispatch legacy
                    definition.unaliased
                else throw (chain.refusal config name)
  | other => fail (.obstacle (.unnamed other.nodeKind))
termination_by (config.aliasLimit - chain.length, sizeOf node)
decreasing_by
  · apply Prod.Lex.right
    simp only [TypeExpr.reference.sizeOf_spec, List.cons.sizeOf_spec]
    omega
  · apply Prod.Lex.right
    simp only [TypeExpr.reference.sizeOf_spec, List.cons.sizeOf_spec]
    omega
  · exact Prod.Lex.left _ _ (Chain.remaining_enter _admitted)

/-- A member has no name to look up. -/
def resolveNode (config : Config) (declarations : Declarations) (chain : Chain)
    (dispatch : Option Dispatch) (legacy : Option String) : Node → Extraction Resolution
  | .type type => resolve config declarations chain dispatch legacy type
  | .member member => fail (.obstacle (.unnamed member.nodeKind))

end Payload

end ComponentEvents
