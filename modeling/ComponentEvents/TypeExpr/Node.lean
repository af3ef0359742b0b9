/-
This file holds nodes that are type expressions or members.
-/

import ComponentEvents.TypeExpr.Text

namespace ComponentEvents

/-- A node is asked for where either kind may be given. -/
inductive Node where
  | type (type : TypeExpr)
  | member (member : Member)

namespace Node

def nodeKind : Node → String
  | .type node => node.nodeKind
  | .member node => node.nodeKind

/-- Only a reference is called by its name. -/
def kindLabel : Node → String
  | .type node => node.kindLabel
  | .member node => node.nodeKind

def text : Node → String
  | .type node => node.text
  | .member node => node.text

def isNullish : Node → Bool
  | .type node => node.isNullish
  | .member _ => false

end Node

end ComponentEvents
