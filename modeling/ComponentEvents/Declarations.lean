/-
This file holds the names declared beside a component.
-/

import ComponentEvents.TypeExpr.Basic

namespace ComponentEvents

/-- A name stands for a declaration or directly for a type. The first entry of a name counts. -/
structure Declarations where
  entries : List (String × TypeExpr)

namespace Declarations

def find? (declarations : Declarations) (name : String) : Option TypeExpr :=
  declarations.entries.lookup name

end Declarations

end ComponentEvents
