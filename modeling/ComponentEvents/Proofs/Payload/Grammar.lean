/-
This file gives the grammar of the types that a field may have.
-/

import ComponentEvents.Payload.Fields
import Mathlib.Tactic.SplitIfs

namespace ComponentEvents

namespace TypeExpr

/-- The first other arm of a union stands behind nullish arms only. -/
theorem otherArms_eq_cons_iff {arms rest : List TypeExpr} {first : TypeExpr} :
    otherArms arms = first :: rest ↔
      ∃ before after, arms = before ++ first :: after ∧
        (∀ arm ∈ before, arm.isNullish = true) ∧ first.isNullish = false ∧
        otherArms after = rest := by
  simp [otherArms, List.filter_eq_cons_iff]

theorem hasNullish_append_cons {before : List TypeExpr} {first : TypeExpr}
    {after : List TypeExpr} (other : first.isNullish = false) :
    hasNullish (before ++ first :: after) = true ↔
      ∃ arm ∈ before ++ after, arm.isNullish = true := by
  simp [hasNullish, other, or_and_right, exists_or]

theorem stringLiteral?_eq_some_iff {node : TypeExpr} {value : String} :
    node.stringLiteral? = some value ↔ node = .literal (.string value) := by
  constructor
  · intro text
    unfold stringLiteral? at text
    split at text
    · cases text
      rfl
    · cases text
  · intro same
    subst same
    rfl

/-- All arms have a text exactly when they are literal types of these texts. -/
theorem mapM_stringLiteral?_eq_some_iff {arms : List TypeExpr} {options : List String} :
    arms.mapM stringLiteral? = some options ↔
      arms = options.map fun option => .literal (.string option) := by
  induction arms generalizing options with
  | nil =>
      cases options with
      | nil => simp
      | cons first rest => simp
  | cons arm arms inductionHypothesis =>
      rw [List.mapM_cons]
      cases options with
      | nil => simp [Option.bind_eq_some_iff]
      | cons first rest =>
          simp [Option.bind_eq_some_iff, stringLiteral?_eq_some_iff, inductionHypothesis]

theorem hasNullish_literals (options : List String) :
    hasNullish (options.map fun option => .literal (.string option)) = false := by
  simp [hasNullish, isNullish]

end TypeExpr

namespace Payload

mutual

/-- A type has a shape, and a field of the type is optional in any case if the flag is set. -/
inductive Maps : TypeExpr → Shape String Bool → Bool → Prop
  | boolean : Maps (.keyword .boolean) (.scalar .boolean) false
  | string : Maps (.keyword .string) (.scalar .string) false
  | int32 (arguments : List TypeExpr) : Maps (.reference "Int32" arguments) (.scalar .int32) false
  | double (arguments : List TypeExpr) :
      Maps (.reference "Double" arguments) (.scalar .double) false
  | float (arguments : List TypeExpr) : Maps (.reference "Float" arguments) (.scalar .float) false
  | readonly {first : TypeExpr} {shape : Shape String Bool} {forced : Bool}
      (rest : List TypeExpr) (inner : Maps first shape forced) :
      Maps (.reference "Readonly" (first :: rest)) shape forced
  | parenthesized {inside : TypeExpr} {shape : Shape String Bool} {forced : Bool}
      (inner : Maps inside shape forced) : Maps (.parenthesized inside) shape forced
  | object {members : List Member} {fields : List (Field String Bool)}
      (inner : MapsMembers members fields) : Maps (.object members) (.object fields) false
  | nullable {before after : List TypeExpr} {first : TypeExpr} {shape : Shape String Bool}
      {forced : Bool} (leading : ∀ arm ∈ before, arm.isNullish = true)
      (other : first.isNullish = false)
      (missing : ∃ arm ∈ before ++ after, arm.isNullish = true)
      (inner : Maps first shape forced) : Maps (.union (before ++ first :: after)) shape true
  | enumeration (first : String) (rest : List String) :
      Maps (.union ((first :: rest).map fun option => .literal (.string option)))
        (.stringEnum first rest) false

/-- Every member is a property, and the fields stand in the order of the members. -/
inductive MapsMembers : List Member → List (Field String Bool) → Prop
  | nil : MapsMembers [] []
  | cons {type : TypeExpr} {shape : Shape String Bool} {forced : Bool} {members : List Member}
      {fields : List (Field String Bool)} (key : String) (optional : Bool)
      (first : Maps type shape forced) (rest : MapsMembers members fields) :
      MapsMembers (.property key type optional :: members)
        (.mk key (optional || forced) shape :: fields)

end

section Inversion

variable {shape : Shape String Bool} {forced : Bool}

theorem maps_parenthesized_iff {inside : TypeExpr} :
    Maps (.parenthesized inside) shape forced ↔ Maps inside shape forced := by
  constructor
  · intro mapped
    cases mapped with
    | parenthesized inner => exact inner
  · exact .parenthesized

theorem maps_object_iff {members : List Member} :
    Maps (.object members) shape forced ↔
      ∃ fields, MapsMembers members fields ∧ shape = .object fields ∧ forced = false := by
  constructor
  · intro mapped
    cases mapped with
    | object inner => exact ⟨_, inner, rfl, rfl⟩
  · intro mapped
    obtain ⟨fields, inner, rfl, rfl⟩ := mapped
    exact .object inner

theorem maps_boolean_iff :
    Maps (.keyword .boolean) shape forced ↔ shape = .scalar .boolean ∧ forced = false := by
  constructor
  · intro mapped
    cases mapped
    exact ⟨rfl, rfl⟩
  · intro mapped
    obtain ⟨rfl, rfl⟩ := mapped
    exact .boolean

theorem maps_string_iff :
    Maps (.keyword .string) shape forced ↔ shape = .scalar .string ∧ forced = false := by
  constructor
  · intro mapped
    cases mapped
    exact ⟨rfl, rfl⟩
  · intro mapped
    obtain ⟨rfl, rfl⟩ := mapped
    exact .string

theorem maps_reference_iff {target : String} {arguments : List TypeExpr} :
    Maps (.reference target arguments) shape forced ↔
      (∃ scalar, Scalar.ofTypeName? target = some scalar ∧ shape = .scalar scalar ∧
        forced = false) ∨
      target = TypeExpr.readonlyName ∧
        ∃ first rest, arguments = first :: rest ∧ Maps first shape forced := by
  constructor
  · intro mapped
    cases mapped with
    | int32 => exact Or.inl ⟨.int32, rfl, rfl, rfl⟩
    | double => exact Or.inl ⟨.double, rfl, rfl, rfl⟩
    | float => exact Or.inl ⟨.float, rfl, rfl, rfl⟩
    | readonly rest inner => exact Or.inr ⟨rfl, _, rest, rfl, inner⟩
  · intro mapped
    rcases mapped with ⟨scalar, known, rfl, rfl⟩ | ⟨rfl, first, rest, rfl, inner⟩
    · unfold Scalar.ofTypeName? at known
      split_ifs at known with int32 double float
      · cases known
        exact int32 ▸ .int32 arguments
      · cases known
        exact double ▸ .double arguments
      · cases known
        exact float ▸ .float arguments
    · exact .readonly rest inner

/-- A known name of a number needs no arguments. -/
theorem maps_known_iff {target : String} {arguments : List TypeExpr} {scalar : Scalar}
    (known : Scalar.ofTypeName? target = some scalar) :
    Maps (.reference target arguments) shape forced ↔
      shape = .scalar scalar ∧ forced = false := by
  have other : target ≠ TypeExpr.readonlyName := by
    intro same
    subst same
    cases known
  simp [maps_reference_iff, known, other]

theorem maps_union_iff {arms : List TypeExpr} :
    Maps (.union arms) shape forced ↔
      (TypeExpr.hasNullish arms = true ∧ forced = true ∧
        ∃ first rest inner, TypeExpr.otherArms arms = first :: rest ∧ Maps first shape inner) ∨
      (forced = false ∧ ∃ first rest,
        arms.mapM TypeExpr.stringLiteral? = some (first :: rest) ∧
          shape = .stringEnum first rest) := by
  constructor
  · intro mapped
    cases mapped with
    | nullable leading other missing inner =>
        refine Or.inl ⟨(TypeExpr.hasNullish_append_cons other).mpr missing, rfl, ?_⟩
        exact ⟨_, _, _, TypeExpr.otherArms_eq_cons_iff.mpr ⟨_, _, rfl, leading, other, rfl⟩, inner⟩
    | enumeration first rest =>
        exact Or.inr ⟨rfl, first, rest, TypeExpr.mapM_stringLiteral?_eq_some_iff.mpr rfl, rfl⟩
  · intro forms
    rcases forms with ⟨nullish, rfl, first, rest, forced, others, inner⟩ |
      ⟨rfl, first, rest, texts, rfl⟩
    · obtain ⟨before, after, rfl, leading, other, _⟩ := TypeExpr.otherArms_eq_cons_iff.mp others
      exact .nullable leading other ((TypeExpr.hasNullish_append_cons other).mp nullish) inner
    · rw [TypeExpr.mapM_stringLiteral?_eq_some_iff.mp texts]
      exact .enumeration first rest

theorem maps_nullable_iff {arms : List TypeExpr} (nullish : TypeExpr.hasNullish arms = true) :
    Maps (.union arms) shape forced ↔
      forced = true ∧
        ∃ first rest inner, TypeExpr.otherArms arms = first :: rest ∧ Maps first shape inner := by
  have noTexts (options : List String) : arms.mapM TypeExpr.stringLiteral? ≠ some options := by
    intro texts
    rw [TypeExpr.mapM_stringLiteral?_eq_some_iff.mp texts] at nullish
    simp [TypeExpr.hasNullish_literals] at nullish
  simp [maps_union_iff, nullish, noTexts]

theorem maps_texts_iff {arms : List TypeExpr} (noNullish : ¬TypeExpr.hasNullish arms = true) :
    Maps (.union arms) shape forced ↔
      forced = false ∧ ∃ first rest,
        arms.mapM TypeExpr.stringLiteral? = some (first :: rest) ∧
          shape = .stringEnum first rest := by
  simp [maps_union_iff, noNullish]

theorem mapsMembers_nil_iff {fields : List (Field String Bool)} :
    MapsMembers [] fields ↔ fields = [] := by
  constructor
  · intro mapped
    cases mapped
    rfl
  · intro same
    subst same
    exact .nil

end Inversion

end Payload
end ComponentEvents
