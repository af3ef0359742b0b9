/-
This file holds short forms for common type expressions.
-/

import ComponentEvents.Dispatch
import ComponentEvents.TypeExpr.Basic

namespace ComponentEvents.TypeExpr

def named (name : String) : TypeExpr := .reference name []

def readonly (inner : TypeExpr) : TypeExpr := .reference readonlyName [inner]

/-- This is the union of the given values. -/
def enumeration (options : List Literal) : TypeExpr := .union (options.map .literal)

/-- This type also admits both missing values. -/
def nullable (inner : TypeExpr) : TypeExpr :=
  .union [inner, .keyword .null, .keyword .undefined]

/-- A handler has its payload as first argument and its legacy name, if any, as second. -/
def handler (dispatch : Dispatch) (payload : TypeExpr) (legacyName : Option Literal) : TypeExpr :=
  .reference dispatch.wrapperName (payload :: legacyName.toList.map .literal)

end ComponentEvents.TypeExpr
