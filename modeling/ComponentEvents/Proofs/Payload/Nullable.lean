/-
This file tells what a nullish arm that is added to the type of a field does to the field.
-/

import ComponentEvents.Proofs.Payload.Fields

namespace ComponentEvents

namespace TypeExpr

/-- A type may also be missing. A union takes the nullish keyword as one more arm at any place, and
any other type stands before or behind it in a new union. -/
inductive Nullified : TypeExpr → TypeExpr → Prop
  | inserted {arm : TypeExpr} (nullish : arm.isNullish = true) (before after : List TypeExpr) :
      Nullified (.union (before ++ after)) (.union (before ++ arm :: after))
  | behind {arm type : TypeExpr} (nullish : arm.isNullish = true)
      (single : ∀ arms, type ≠ .union arms) : Nullified type (.union [arm, type])
  | ahead {arm type : TypeExpr} (nullish : arm.isNullish = true)
      (single : ∀ arms, type ≠ .union arms) : Nullified type (.union [type, arm])

/-- All arms of the union are literal types with a text. -/
def IsTextUnion (type : TypeExpr) : Prop :=
  ∃ options : List String, type = .union (options.map fun option => .literal (.string option))

theorem hasNullish_inserted {arm : TypeExpr} (nullish : arm.isNullish = true)
    (before after : List TypeExpr) : hasNullish (before ++ arm :: after) = true := by
  simp [hasNullish, nullish]

theorem otherArms_inserted {arm : TypeExpr} (nullish : arm.isNullish = true)
    (before after : List TypeExpr) :
    otherArms (before ++ arm :: after) = otherArms (before ++ after) := by
  simp [otherArms, nullish]

end TypeExpr

namespace Payload

variable (config : Config) (name : String) (optional : Bool)

theorem Maps.field_value {type : TypeExpr} {shape : Shape String Bool} {forced : Bool}
    (mapped : Maps type shape forced) :
    (field config name optional type).run.value = .ok (.mk name (optional || forced) shape) :=
  ((produces_field config name optional type).value_iff _).mpr ⟨shape, forced, mapped, rfl⟩

/-- A nullish type has no shape. -/
theorem Maps.isNullish_eq_false {type : TypeExpr} {shape : Shape String Bool} {forced : Bool}
    (mapped : Maps type shape forced) : type.isNullish = false := by
  cases mapped <;> rfl

/-- A shape of a union comes from a nullish arm or from texts. -/
theorem Maps.nullish_or_texts {arms : List TypeExpr} {shape : Shape String Bool} {forced : Bool}
    (mapped : Maps (.union arms) shape forced) :
    (TypeExpr.hasNullish arms = true ∧ ¬(TypeExpr.union arms).IsTextUnion ∧
      ∃ first rest inner, TypeExpr.otherArms arms = first :: rest ∧ Maps first shape inner) ∨
    ∃ first rest,
      arms = (first :: rest).map fun option => TypeExpr.literal (.string option) := by
  rcases maps_union_iff.mp mapped with ⟨nullish, -, first⟩ | ⟨-, first, rest, texts, -⟩
  · refine Or.inl ⟨nullish, ?_, first⟩
    intro isTexts
    obtain ⟨options, same⟩ := isTexts
    cases same
    rw [TypeExpr.hasNullish_literals] at nullish
    cases nullish
  · exact Or.inr ⟨first, rest, TypeExpr.mapM_stringLiteral?_eq_some_iff.mp texts⟩

/-- A field stays what it is when its type may also be missing, and it is optional then. A union of
texts is not a type of this kind, because one of its texts would stand for all of them. -/
theorem field_nullified {type widened : TypeExpr} {found : Field String Bool}
    (supported : (field config name optional type).run.value = .ok found)
    (nullified : type.Nullified widened) :
    (¬type.IsTextUnion →
      (field config name optional widened).run.value = .ok (.mk name true found.shape)) ∧
    (type.IsTextUnion →
      (field config name optional widened).run.value =
        .error (.ofCause (.unsupportedProperty name "TSLiteralType"))) := by
  obtain ⟨shape, forced, mapped, rfl⟩ :=
    ((produces_field config name optional type).value_iff found).mp supported
  -- In a new union the type itself is the first arm that is not nullish.
  have alone (single : ∀ arms, type ≠ .union arms) {arms : List TypeExpr}
      (nullish : TypeExpr.hasNullish arms = true) (only : TypeExpr.otherArms arms = [type]) :
      ¬type.IsTextUnion ∧
        (field config name optional (.union arms)).run.value = .ok (.mk name true shape) := by
    constructor
    · intro texts
      obtain ⟨options, same⟩ := texts
      exact single _ same
    · rw [value_field_nullish config name optional nullish only, mapped.field_value, Bool.true_or]
  cases nullified with
  | @inserted arm nullish before after =>
      have given := TypeExpr.hasNullish_inserted nullish before after
      have others := TypeExpr.otherArms_inserted nullish before after
      rcases mapped.nullish_or_texts with
        ⟨-, noTexts, first, rest, inner, first_others, mappedFirst⟩ | ⟨first, rest, texts⟩
      · refine ⟨fun _ => ?_, fun isTexts => (noTexts isTexts).elim⟩
        rw [value_field_nullish config name optional given (others.trans first_others),
          mappedFirst.field_value, Bool.true_or, Field.shape]
      · have isTexts : (TypeExpr.union (before ++ after)).IsTextUnion :=
          ⟨first :: rest, by rw [texts]⟩
        refine ⟨fun noTexts => (noTexts isTexts).elim, fun _ => ?_⟩
        have literals : TypeExpr.otherArms (before ++ after) = before ++ after := by
          rw [TypeExpr.otherArms_eq_self_iff, texts, TypeExpr.hasNullish_literals]
        rw [value_field_nullish config name optional given (others.trans (literals.trans texts))]
        rfl
  | behind nullish single =>
      have other := mapped.isNullish_eq_false
      have made := alone single (TypeExpr.hasNullish_inserted nullish [] [type])
        (by simp [TypeExpr.otherArms, nullish, other])
      exact ⟨fun _ => made.2, fun texts => (made.1 texts).elim⟩
  | ahead nullish single =>
      have other := mapped.isNullish_eq_false
      have made := alone single (TypeExpr.hasNullish_inserted nullish [type] [])
        (by simp [TypeExpr.otherArms, nullish, other])
      exact ⟨fun _ => made.2, fun texts => (made.1 texts).elim⟩

/-- In parentheses a union of texts is one arm, so it may be missing. -/
theorem field_nullified_parenthesized :
    let texts : TypeExpr := .parenthesized
      (.union [.literal (.string "a"), .literal (.string "b")])
    ((field .standard "kind" false texts).run.value =
        .ok (.mk "kind" false (.stringEnum "a" ["b"])) ∧
      texts.Nullified (.union [texts, .keyword .null])) ∧
    (field .standard "kind" false (.union [texts, .keyword .null])).run.value =
      .ok (.mk "kind" true (.stringEnum "a" ["b"])) := by
  intro texts
  have supported : (field .standard "kind" false texts).run.value =
      .ok (.mk "kind" false (.stringEnum "a" ["b"])) :=
    (Maps.parenthesized (.enumeration "a" ["b"])).field_value .standard "kind" false
  have nullified : texts.Nullified (.union [texts, .keyword .null]) :=
    .ahead rfl (by simp [texts])
  refine ⟨⟨supported, nullified⟩, ?_⟩
  refine (field_nullified .standard "kind" false supported nullified).1 ?_
  simp [TypeExpr.IsTextUnion, texts]

/-- A union of texts without parentheses is refused as soon as it may be missing. -/
theorem field_nullified_texts :
    let first : TypeExpr := .literal (.string "a")
    let second : TypeExpr := .literal (.string "b")
    (field .standard "kind" false (.union [first, second])).run.value =
        .ok (.mk "kind" false (.stringEnum "a" ["b"])) ∧
    (TypeExpr.union [first, second]).Nullified (.union [first, second, .keyword .null]) ∧
    (field .standard "kind" false (.union [first, second, .keyword .null])).run.value =
      .error (.ofCause (.unsupportedProperty "kind" "TSLiteralType")) := by
  intro first second
  refine ⟨(Maps.enumeration "a" ["b"]).field_value .standard "kind" false, ?_, ?_⟩
  · exact .inserted rfl [first, second] []
  · have others : TypeExpr.otherArms [first, second, .keyword .null] = [first, second] := rfl
    rw [value_field_nullish .standard "kind" false rfl others]
    rfl

end Payload
end ComponentEvents
