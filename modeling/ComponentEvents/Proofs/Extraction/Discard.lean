/-
This file shows that handlers and fields are found without regard to the walk.
-/

import ComponentEvents.Extraction.Events

namespace ComponentEvents

variable {config config' : Config}

theorem Logged.noteDropped_congr (same : config.warnOnDiscard = config'.warnOnDiscard)
    (entry : TypeExpr → Nat → TypeExpr → LogEntry) (arms : List TypeExpr) :
    noteDropped config entry arms = noteDropped config' entry arms := by
  unfold noteDropped
  rw [same]

namespace Handler

mutual

/-- A handler is found in the same way wherever the same discards are warned of. -/
theorem detect_congr (same : config.warnOnDiscard = config'.warnOnDiscard) (optional : Bool) :
    ∀ type, detect config optional type = detect config' optional type
  | .parenthesized inner => by
      rw [detect, detect]
      exact detect_congr same optional inner
  | .union arms => by
      rw [detect, detect, Logged.noteDropped_congr same, detectFirst_congr same _ arms]
  | .reference _ _ | .keyword _ | .literal _ | .intersection _ | .object _
  | .interfaceDecl _ _ _ | .aliasDecl _ _ => by
      simp only [detect]

theorem detectFirst_congr (same : config.warnOnDiscard = config'.warnOnDiscard)
    (optional : Bool) :
    ∀ arms, detectFirst config optional arms = detectFirst config' optional arms
  | [] => by
      rw [detectFirst, detectFirst]
  | arm :: arms => by
      rw [detectFirst, detectFirst, detectFirst_congr same optional arms,
        detect_congr same optional arm]

end

end Handler

namespace Payload

mutual

/-- A field is made in the same way wherever the same discards are warned of. -/
theorem field_congr (same : config.warnOnDiscard = config'.warnOnDiscard) (name : String)
    (optional : Bool) : ∀ type, field config name optional type = field config' name optional type
  | .parenthesized inner => by
      rw [field, field]
      exact field_congr same name optional inner
  | .reference target arguments => by
      unfold field
      cases arguments with
      | nil => rfl
      | cons first rest => simp only [field_congr same name optional first]
  | .object members => by
      rw [field, field, memberFields_congr same members]
  | .union arms => by
      unfold field
      rw [Logged.noteDropped_congr same, firstField_congr same name arms]
  | .keyword keyword => by
      cases keyword <;> simp only [field]
  | .literal _ | .intersection _ | .interfaceDecl _ _ _ | .aliasDecl _ _ => by
      simp only [field]

theorem firstField_congr (same : config.warnOnDiscard = config'.warnOnDiscard)
    (name : String) : ∀ arms, firstField config name arms = firstField config' name arms
  | [] => by
      rw [firstField, firstField]
  | arm :: arms => by
      rw [firstField, firstField, firstField_congr same name arms, field_congr same name true arm]

theorem memberField_congr (same : config.warnOnDiscard = config'.warnOnDiscard) :
    ∀ member, memberField config member = memberField config' member
  | .property key type optional => by
      rw [memberField, memberField]
      exact field_congr same key optional type
  | .method _ | .index _ _ | .call _ | .spread _ => by
      simp only [memberField]

theorem memberFields_congr (same : config.warnOnDiscard = config'.warnOnDiscard) :
    ∀ members, memberFields config members = memberFields config' members
  | [] => by
      rw [memberFields, memberFields]
  | member :: members => by
      rw [memberFields, memberFields, memberField_congr same member,
        memberFields_congr same members]

end

end Payload
end ComponentEvents
