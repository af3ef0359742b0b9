/-
This file holds the choices that an extraction is run with.
-/

namespace ComponentEvents

/-- The limit bounds the names that may be entered on the way to one payload. Warnings tell of
union arms that are dropped. -/
structure Config where
  aliasLimit : Nat
  detectCycles : Bool
  warnOnDiscard : Bool
  positive : 0 < aliasLimit := by decide

namespace Config

/-- This is the configuration where nothing else is asked for. -/
def standard : Config where
  aliasLimit := 64
  detectCycles := true
  warnOnDiscard := true

end Config

end ComponentEvents
