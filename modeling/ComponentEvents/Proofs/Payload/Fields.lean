/-
This file shows that the fields of a payload are those that the grammar of types gives.
-/

import ComponentEvents.Proofs.Payload.Grammar

namespace ComponentEvents.Payload

/-- The values that a computation may have are given, and any other outcome tells of a type that is
not supported. -/
structure Produces {α : Type} (extraction : Extraction α) (accepts : α → Prop) : Prop where
  value_iff : ∀ value, extraction.run.value = .ok value ↔ accepts value
  unsupported : ∀ error, extraction.run.value = .error error →
    ∃ property kind, error = .ofCause (.unsupportedProperty property kind)

namespace Produces

variable {α β : Type} {accepts accepts' : α → Prop}

theorem pure (value : α) : Produces (pure value : Extraction α) (· = value) := by
  constructor
  · intro other
    simp [eq_comm]
  · intro error failed
    simp at failed

theorem refuse (name kind : String) :
    Produces (Payload.unsupported name kind : Extraction α) fun _ => False := by
  constructor
  · intro value
    simp [Payload.unsupported]
  · intro error failed
    exact ⟨name, kind, by simpa [Payload.unsupported, eq_comm] using failed⟩

theorem congr {extraction : Extraction α} (produces : Produces extraction accepts)
    (same : ∀ value, accepts value ↔ accepts' value) : Produces extraction accepts' := by
  constructor
  · intro value
    rw [produces.value_iff, same]
  · exact produces.unsupported

/-- A second computation goes on with a value of the first one. -/
theorem bind {first : Extraction α} {next : α → Extraction β} {result : α → β → Prop}
    (produces : Produces first accepts)
    (goesOn : ∀ value, accepts value → Produces (next value) (result value)) :
    Produces (first >>= next) fun found => ∃ value, accepts value ∧ result value found := by
  cases outcome : first.run.value with
  | ok value =>
      -- The first computation has one value, so only this one can be accepted.
      have accepted := (produces.value_iff value).mp outcome
      have only : ∀ other, accepts other → other = value := by
        intro other accepted
        have same := (produces.value_iff other).mpr accepted
        rw [outcome] at same
        cases same
        rfl
      have runs : (first >>= next).run.value = (next value).run.value := by
        rw [Extraction.run_bind_ok outcome]
      constructor
      · intro found
        rw [runs, (goesOn value accepted).value_iff]
        constructor
        · intro yields
          exact ⟨value, accepted, yields⟩
        · intro made
          obtain ⟨other, accepted, yields⟩ := made
          exact only other accepted ▸ yields
      · intro error failed
        exact (goesOn value accepted).unsupported error (runs ▸ failed)
  | error error =>
      have runs : (first >>= next).run.value = .error error := by
        rw [Extraction.run_bind_error outcome]
      constructor
      · intro found
        constructor
        · intro succeeded
          rw [runs] at succeeded
          cases succeeded
        · intro made
          obtain ⟨value, accepted, yields⟩ := made
          have succeeded := (produces.value_iff value).mpr accepted
          rw [outcome] at succeeded
          cases succeeded
      · intro other failed
        rw [runs] at failed
        cases failed
        exact produces.unsupported error outcome

/-- Notes before a computation change nothing. -/
theorem noted {extraction : Extraction α} (logged : Logged Unit)
    (produces : Produces extraction accepts) :
    Produces ((monadLift logged : Extraction Unit) >>= fun _ => extraction) accepts := by
  have runs : ((monadLift logged : Extraction Unit) >>= fun _ => extraction).run.value =
      extraction.run.value := by
    rw [Extraction.run_bind_ok rfl]
  constructor
  · intro value
    rw [runs, produces.value_iff]
  · intro error failed
    exact produces.unsupported error (runs ▸ failed)

theorem refused_iff {extraction : Extraction α} (produces : Produces extraction accepts) :
    (∃ property kind,
      extraction.run.value = .error (.ofCause (.unsupportedProperty property kind))) ↔
      ¬∃ value, accepts value := by
  constructor
  · intro refused accepted
    obtain ⟨property, kind, failed⟩ := refused
    obtain ⟨value, accepted⟩ := accepted
    rw [(produces.value_iff value).mpr accepted] at failed
    cases failed
  · intro never
    cases outcome : extraction.run.value with
    | ok value => exact (never ⟨value, (produces.value_iff value).mp outcome⟩).elim
    | error error =>
        obtain ⟨property, kind, rfl⟩ := produces.unsupported error outcome
        exact ⟨property, kind, rfl⟩

end Produces

/-- A field of a type has the shape of the type. -/
def Makes (name : String) (optional : Bool) (type : TypeExpr) (found : Field String Bool) : Prop :=
  ∃ shape forced, Maps type shape forced ∧ found = .mk name (optional || forced) shape

theorem Makes.congr {type type' : TypeExpr}
    (same : ∀ shape forced, Maps type shape forced ↔ Maps type' shape forced) (name : String)
    (optional : Bool) (found : Field String Bool) :
    Makes name optional type found ↔ Makes name optional type' found := by
  simp only [Makes, same]

section Single

variable {name : String} {optional : Bool} {type : TypeExpr} {shape' : Shape String Bool}

theorem Produces.known (only : ∀ shape forced, Maps type shape forced ↔
      shape = shape' ∧ forced = false) :
    Produces (Pure.pure (.mk name optional shape')) (Makes name optional type) := by
  refine (Produces.pure _).congr ?_
  intro found
  simp [Makes, only]

theorem Produces.unknown {kind : String} (never : ∀ shape forced, ¬Maps type shape forced) :
    Produces (Payload.unsupported name kind) (Makes name optional type) := by
  refine (Produces.refuse name kind).congr ?_
  intro found
  simp [Makes, never]

end Single

variable (config : Config)

mutual

theorem produces_field (name : String) (optional : Bool) :
    ∀ type, Produces (field config name optional type) (Makes name optional type)
  | .parenthesized inside => by
      rw [field]
      refine (produces_field name optional inside).congr (Makes.congr ?_ name optional)
      intro shape forced
      exact maps_parenthesized_iff.symm
  | .keyword keyword => by
      cases keyword with
      | boolean =>
          rw [field]
          exact .known fun shape forced => maps_boolean_iff
      | string =>
          rw [field]
          exact .known fun shape forced => maps_string_iff
      | _ =>
          unfold field
          refine .unknown ?_
          intro shape forced mapped
          cases mapped
  | .reference target arguments => by
      unfold field
      split
      · next scalar known =>
          refine .known ?_
          intro shape forced
          exact maps_known_iff known
      · next unknown =>
          cases arguments with
          | nil =>
              refine .unknown ?_
              intro shape forced mapped
              simp [maps_reference_iff, unknown] at mapped
          | cons first rest =>
              by_cases readonly : target = TypeExpr.readonlyName
              · subst readonly
                simp only [if_pos]
                refine (produces_field name optional first).congr (Makes.congr ?_ name optional)
                intro shape forced
                simp [maps_reference_iff, unknown]
              · simp only [if_neg readonly]
                refine .unknown ?_
                intro shape forced mapped
                simp [maps_reference_iff, unknown, readonly] at mapped
  | .object members => by
      rw [field]
      refine ((produces_memberFields members).bind fun fields _ => .pure _).congr ?_
      intro found
      constructor
      · intro made
        obtain ⟨fields, mapped, rfl⟩ := made
        exact ⟨_, _, maps_object_iff.mpr ⟨fields, mapped, rfl, rfl⟩, by rw [Bool.or_false]⟩
      · intro made
        obtain ⟨shape, forced, object, rfl⟩ := made
        obtain ⟨fields, mapped, rfl, rfl⟩ := maps_object_iff.mp object
        exact ⟨fields, mapped, by rw [Bool.or_false]⟩
  | .union arms => by
      unfold field
      split
      · next nullish =>
          refine ((produces_firstField name arms).noted _).congr ?_
          intro found
          constructor
          · intro made
            obtain ⟨first, rest, others, shape, forced, mapped, rfl⟩ := made
            refine ⟨shape, true, ?_, by rw [Bool.true_or, Bool.or_true]⟩
            exact (maps_nullable_iff nullish).mpr ⟨rfl, first, rest, forced, others, mapped⟩
          · intro made
            obtain ⟨shape, forced, union, rfl⟩ := made
            obtain ⟨rfl, first, rest, inner, others, mapped⟩ :=
              (maps_nullable_iff nullish).mp union
            exact ⟨first, rest, others, shape, inner, mapped, by rw [Bool.true_or, Bool.or_true]⟩
      · next noNullish =>
          split
          · next first rest texts =>
              refine .known ?_
              intro shape forced
              rw [maps_texts_iff noNullish, texts]
              constructor
              · intro made
                obtain ⟨rfl, _, _, same, rfl⟩ := made
                cases same
                exact ⟨rfl, rfl⟩
              · intro made
                obtain ⟨rfl, rfl⟩ := made
                exact ⟨rfl, first, rest, rfl, rfl⟩
          · next noTexts =>
              refine .unknown ?_
              intro shape forced mapped
              obtain ⟨-, first, rest, texts, -⟩ := (maps_texts_iff noNullish).mp mapped
              exact noTexts first rest texts
  | .literal _ | .intersection _ | .interfaceDecl _ _ _ | .aliasDecl _ _ => by
      unfold field
      refine .unknown ?_
      intro shape forced mapped
      cases mapped

/-- The first arm that is not nullish makes the field. -/
theorem produces_firstField (name : String) :
    ∀ arms, Produces (firstField config name arms) fun found =>
      ∃ first rest, TypeExpr.otherArms arms = first :: rest ∧ Makes name true first found
  | [] => by
      rw [firstField]
      refine (Produces.refuse _ _).congr ?_
      simp [TypeExpr.otherArms]
  | arm :: arms => by
      rw [firstField]
      by_cases nullish : arm.isNullish = true
      · rw [if_pos nullish, TypeExpr.otherArms_cons_nullish arms nullish]
        exact produces_firstField name arms
      · rw [if_neg nullish, TypeExpr.otherArms_cons_other arms (by simpa using nullish)]
        refine (produces_field name true arm).congr ?_
        intro found
        simp

/-- Only a property makes a field. -/
theorem produces_memberField :
    ∀ member, Produces (memberField config member) fun found =>
      ∃ key type optional, member = .property key type optional ∧ Makes key optional type found
  | .property key type optional => by
      rw [memberField]
      refine (produces_field key optional type).congr ?_
      intro found
      constructor
      · intro made
        exact ⟨key, type, optional, rfl, made⟩
      · intro given
        obtain ⟨_, _, _, ⟨⟩, made⟩ := given
        exact made
  | .method _ | .index _ _ | .call _ | .spread _ => by
      unfold memberField
      refine (Produces.refuse _ _).congr ?_
      simp

theorem produces_memberFields :
    ∀ members, Produces (memberFields config members) (MapsMembers members)
  | [] => by
      rw [memberFields]
      refine (Produces.pure []).congr ?_
      intro fields
      exact mapsMembers_nil_iff.symm
  | member :: members => by
      rw [memberFields]
      refine ((produces_memberField member).bind fun first _ =>
        (produces_memberFields members).bind fun rest _ => .pure _).congr ?_
      intro fields
      constructor
      · intro made
        obtain ⟨first, property, rest, others, rfl⟩ := made
        obtain ⟨key, type, optional, rfl, shape, forced, mapped, rfl⟩ := property
        exact .cons key optional mapped others
      · intro mapped
        cases mapped with
        | @cons type shape forced _ fields key optional first rest =>
            exact ⟨_, ⟨key, type, optional, rfl, shape, forced, first, rfl⟩, fields, rest, rfl⟩

end

/-- A type has one shape. -/
theorem Maps.unique {type : TypeExpr} {shape shape' : Shape String Bool} {forced forced' : Bool}
    (first : Maps type shape forced) (second : Maps type shape' forced') :
    shape = shape' ∧ forced = forced' := by
  have produces := produces_field .standard "" false type
  have made := (produces.value_iff _).mpr ⟨shape, forced, first, rfl⟩
  have made' := (produces.value_iff _).mpr ⟨shape', forced', second, rfl⟩
  rw [made] at made'
  cases made'
  exact ⟨rfl, rfl⟩

/-- The types of the grammar, and no others, make a field, and this is the field that the grammar
says. Any other type is refused. -/
theorem field_iff_maps :
    (∀ name optional type,
      (∀ found, (field config name optional type).run.value = .ok found ↔
        ∃ shape forced, Maps type shape forced ∧ found = .mk name (optional || forced) shape) ∧
      ((∃ property kind, (field config name optional type).run.value =
          .error (.ofCause (.unsupportedProperty property kind))) ↔
        ¬∃ shape forced, Maps type shape forced)) ∧
    ∀ members,
      (∀ fields, (memberFields config members).run.value = .ok fields ↔
        MapsMembers members fields) ∧
      ((∃ property kind, (memberFields config members).run.value =
          .error (.ofCause (.unsupportedProperty property kind))) ↔
        ¬∃ fields, MapsMembers members fields) := by
  constructor
  · intro name optional type
    have produces := produces_field config name optional type
    refine ⟨produces.value_iff, produces.refused_iff.trans (not_congr ?_)⟩
    constructor
    · intro made
      obtain ⟨found, shape, forced, mapped, -⟩ := made
      exact ⟨shape, forced, mapped⟩
    · intro made
      obtain ⟨shape, forced, mapped⟩ := made
      exact ⟨_, shape, forced, mapped, rfl⟩
  · intro members
    have produces := produces_memberFields config members
    exact ⟨produces.value_iff, produces.refused_iff⟩

end ComponentEvents.Payload
