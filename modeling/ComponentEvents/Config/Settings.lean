/-
This file reads and writes the settings of an extraction.
-/

import ComponentEvents.Config.Basic
import ComponentEvents.Json.Equality
import ComponentEvents.Json.Text

namespace ComponentEvents

/-- Settings keep each value as it was given. -/
structure Settings where
  aliasLimit : Json
  detectCycles : Json
  warnOnDiscard : Json

/-- A settings object is refused for one of these causes. -/
inductive SettingsError where
  | notAnObject
  | limitNotANumber
  | limitNotPositive (limit : Json)

/-- Only a limit that is a number has a message. -/
def SettingsError.message? : SettingsError → Option String
  | .limitNotPositive limit => some ("max_alias_depth must be positive, got " ++ limit.text)
  | _ => none

namespace Settings

def aliasLimitKey : String := "max_alias_depth"

def detectCyclesKey : String := "detect_alias_cycles"

def warnOnDiscardKey : String := "warn_on_discarded_union_members"

/-- These are the settings of the standard configuration. -/
def standard : Settings where
  aliasLimit := .integer Config.standard.aliasLimit
  detectCycles := .bool Config.standard.detectCycles
  warnOnDiscard := .bool Config.standard.warnOnDiscard

/-- A truth value is compared as the number one or zero; values of other kinds have no answer. -/
def isBelowOne? : Json → Option Bool
  | .bool value => some !value
  | .integer value => some (value < 1)
  | .double value => some value.isBelowOne
  | _ => none

/-- A missing entry takes its standard value. Only the limit is checked. -/
def read : Json → Except SettingsError Settings
  | .object entries =>
      let entry := fun key standardValue => (Json.lookup? key entries).getD standardValue
      let limit := entry aliasLimitKey standard.aliasLimit
      match isBelowOne? limit with
      | none => .error .limitNotANumber
      | some true => .error (.limitNotPositive limit)
      | some false =>
          .ok ⟨limit, entry detectCyclesKey standard.detectCycles,
            entry warnOnDiscardKey standard.warnOnDiscard⟩
  | _ => .error .notAnObject

def toJson (settings : Settings) : Json :=
  .object [
    (aliasLimitKey, settings.aliasLimit),
    (detectCyclesKey, settings.detectCycles),
    (warnOnDiscardKey, settings.warnOnDiscard)]

/-- Settings are standard when each value equals the standard one as a number or truth value. -/
def isStandard (settings : Settings) : Bool :=
  settings.aliasLimit.same standard.aliasLimit &&
    settings.detectCycles.same standard.detectCycles &&
    settings.warnOnDiscard.same standard.warnOnDiscard

/-- A count of names is below the given limit exactly when it is below this one. -/
def limitValue : Json → Nat
  | .bool value => value.toNat
  | .integer value => value.toNat
  | .double value => value.ceilNat
  | _ => 0

/-- The flags count by their truth. -/
def toConfig (settings : Settings) : Config where
  aliasLimit := max 1 (limitValue settings.aliasLimit)
  detectCycles := settings.detectCycles.isTruthy
  warnOnDiscard := settings.warnOnDiscard.isTruthy
  positive := by omega

end Settings

end ComponentEvents
