/-
This file holds what an extraction notes on its way.
-/

import ComponentEvents.Config.Basic
import ComponentEvents.TypeExpr.Node

namespace ComponentEvents

/-- Warnings tell of a loss and the other entries of progress. -/
inductive LogLevel where
  | debug
  | warning
  deriving DecidableEq, Repr

/-- Notes come from the search for a handler, the walk to its payload, the fields of the payload, a
property as a whole or the list of all members. -/
inductive LogSource where
  | search
  | walk
  | fields
  | property
  | batch
  deriving DecidableEq, Repr

/-- A note keeps the nodes that it is about. -/
inductive LogEntry where
  | handlerArmsDropped (union : TypeExpr) (count : Nat) (first : TypeExpr)
  | propertyArmsDropped (name : String) (union : TypeExpr) (count : Nat) (first : TypeExpr)
  | notHandler (name : String)
  | skipped (kind : String)
  | extracted (events members : Nat)
  | resolved (name kind : String)
  | undeclared (name : String)

namespace LogEntry

def level : LogEntry → LogLevel
  | .handlerArmsDropped _ _ _ => .warning
  | .propertyArmsDropped _ _ _ _ => .warning
  | _ => .debug

def source : LogEntry → LogSource
  | .handlerArmsDropped _ _ _ => .search
  | .propertyArmsDropped _ _ _ _ => .fields
  | .notHandler _ => .property
  | .skipped _ => .batch
  | .extracted _ _ => .batch
  | .resolved _ _ => .walk
  | .undeclared _ => .walk

/-- The subject is the union and the use is what its first arm is taken for. -/
def droppedText (subject : String) (union : TypeExpr) (count : Nat) (first : TypeExpr)
    (use : String) : String :=
  subject ++ " '" ++ union.text ++ "' has " ++ toString count ++
    " non-nullish members; only '" ++ first.text ++ "' is " ++ use

def message : LogEntry → String
  | .handlerArmsDropped union count first => droppedText "Union" union count first "considered"
  | .propertyArmsDropped name union count first =>
      droppedText ("Property '" ++ name ++ "': union") union count first "mapped"
  | .notHandler name => "Prop '" ++ name ++ "' is not an event handler"
  | .skipped kind => "Skipping " ++ kind ++ " member"
  | .extracted events members =>
      "Extracted " ++ toString events ++ " events from " ++ toString members ++ " members"
  | .resolved name kind => "Resolved alias '" ++ name ++ "' to " ++ kind
  | .undeclared name => "Event argument type '" ++ name ++ "' is not declared locally"

end LogEntry

/-- The value of a computation stands beside its notes, the first note first. -/
structure Logged (α : Type) where
  log : List LogEntry
  value : α

namespace Logged

instance : Monad Logged where
  pure value := ⟨[], value⟩
  bind first next := ⟨first.log ++ (next first.value).log, (next first.value).value⟩

@[simp] theorem log_pure {α : Type} (value : α) : (pure value : Logged α).log = [] := rfl

@[simp] theorem value_pure {α : Type} (value : α) : (pure value : Logged α).value = value := rfl

@[simp] theorem log_bind {α β : Type} (first : Logged α) (next : α → Logged β) :
    (first >>= next).log = first.log ++ (next first.value).log := rfl

@[simp] theorem value_bind {α β : Type} (first : Logged α) (next : α → Logged β) :
    (first >>= next).value = (next first.value).value := rfl

@[ext] theorem ext {α : Type} {first second : Logged α} (sameLog : first.log = second.log)
    (sameValue : first.value = second.value) : first = second := by
  cases first
  cases second
  cases sameLog
  cases sameValue
  rfl

theorem map_id {α : Type} (first : Logged α) : id <$> first = first := by
  apply ext
  · exact List.append_nil first.log
  · rfl

theorem bind_assoc {α β γ : Type} (first : Logged α) (second : α → Logged β)
    (third : β → Logged γ) :
    first >>= second >>= third = first >>= fun value => second value >>= third := by
  apply ext
  · exact List.append_assoc _ _ _
  · rfl

instance : LawfulMonad Logged :=
  LawfulMonad.mk' Logged map_id (fun _ _ => rfl) bind_assoc

/-- This computation notes one entry. -/
def tell (entry : LogEntry) : Logged Unit := ⟨[entry], ()⟩

/-- The first of several arms that are not nullish stands for a union, and the others are noted
where the configuration asks for it. -/
def noteDropped (config : Config) (entry : TypeExpr → Nat → TypeExpr → LogEntry)
    (arms : List TypeExpr) : Logged Unit :=
  match TypeExpr.otherArms arms with
  | first :: _ :: rest =>
      if config.warnOnDiscard then tell (entry (.union arms) (rest.length + 2) first)
      else pure ()
  | _ => pure ()

end Logged

end ComponentEvents
