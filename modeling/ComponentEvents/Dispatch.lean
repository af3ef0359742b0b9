/-
This file holds the two ways in which an event reaches its listeners.
-/

namespace ComponentEvents

/-- A bubbling event also reaches the listeners of the views around its target. -/
inductive Dispatch where
  | bubble
  | direct
  deriving DecidableEq, Repr

namespace Dispatch

/-- This is the dispatch as it is written in a schema. -/
def text : Dispatch → String
  | bubble => "bubble"
  | direct => "direct"

def ofText? (text : String) : Option Dispatch :=
  if text = bubble.text then some bubble
  else if text = direct.text then some direct
  else none

theorem ofText?_eq_some_iff {text : String} {dispatch : Dispatch} :
    ofText? text = some dispatch ↔ text = dispatch.text := by
  constructor
  · intro found
    unfold ofText? at found
    split at found
    · cases found
      assumption
    · split at found
      · cases found
        assumption
      · cases found
  · intro equal
    subst equal
    cases dispatch <;> rfl

/-- This is the name of the handler type with this dispatch. -/
def wrapperName : Dispatch → String
  | bubble => "BubblingEventHandler"
  | direct => "DirectEventHandler"

def ofWrapperName? (name : String) : Option Dispatch :=
  if name = bubble.wrapperName then some bubble
  else if name = direct.wrapperName then some direct
  else none

theorem ofWrapperName?_eq_some_iff {name : String} {dispatch : Dispatch} :
    ofWrapperName? name = some dispatch ↔ name = dispatch.wrapperName := by
  constructor
  · intro found
    unfold ofWrapperName? at found
    split at found
    · cases found
      assumption
    · split at found
      · cases found
        assumption
      · cases found
  · intro equal
    subst equal
    cases dispatch <;> rfl

@[simp] theorem ofWrapperName?_wrapperName (dispatch : Dispatch) :
    ofWrapperName? dispatch.wrapperName = some dispatch :=
  ofWrapperName?_eq_some_iff.mpr rfl

end Dispatch

end ComponentEvents
