/-
This file extracts the events of a component from its members.
-/

import ComponentEvents.Handler
import ComponentEvents.Payload.Fields
import ComponentEvents.Payload.Resolution

namespace ComponentEvents.Extraction

/-- Both the members and the dispatch of a payload have to be known. -/
def handlerEvent (config : Config) (declarations : Declarations) (name : String)
    (handler : Handler) : Extraction (Event String Bool) := do
  let resolution ← Payload.resolve config declarations [] none none handler.reference
  match resolution.members, resolution.dispatch with
  | some members, some dispatch => do
      let fields ← Payload.memberFields config members
      return ⟨name, handler.optional, dispatch, resolution.legacyName, fields⟩
  | _, _ => fail (.unresolvedArguments name)

/-- A property whose type is not a handler is not an event. -/
def propertyEvent (config : Config) (declarations : Declarations) (name : String)
    (type : TypeExpr) (optional : Bool) : Extraction (Option (Event String Bool)) := do
  match ← (monadLift (Handler.detect config optional type) : Extraction (Option Handler)) with
  | none =>
      note (.notHandler name)
      return none
  | some handler =>
      let event ← inEvent name (handlerEvent config declarations name handler)
      return some event

/-- Members other than properties are not looked into. -/
def memberEvent (config : Config) (declarations : Declarations) :
    Member → Extraction (Option (Event String Bool))
  | .property key type optional => propertyEvent config declarations key type optional
  | other => do
      note (.skipped other.nodeKind)
      return none

/-- The first failure ends the extraction. -/
def memberEvents (config : Config) (declarations : Declarations) :
    List Member → Extraction (List (Event String Bool))
  | [] => return []
  | member :: members => do
      let first ← memberEvent config declarations member
      let rest ← memberEvents config declarations members
      return first.toList ++ rest

/-- The events stand in the order of their members, and a summary closes the notes. -/
def events (config : Config) (declarations : Declarations) (members : List Member) :
    Extraction (List (Event String Bool)) := do
  let found ← memberEvents config declarations members
  note (.extracted found.length members.length)
  return found

end ComponentEvents.Extraction
