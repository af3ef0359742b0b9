/-
This file compares the search for a handler with the leaves of a type.
-/

import ComponentEvents.Handler
import ComponentEvents.TypeExpr.Build

namespace ComponentEvents

namespace TypeExpr

mutual

/-- Parentheses are removed, and a union stands for the leaves of its arms. -/
def leaves : TypeExpr → List TypeExpr
  | .parenthesized inner => leaves inner
  | .union arms => leavesOfAll arms
  | node => [node]

def leavesOfAll : List TypeExpr → List TypeExpr
  | [] => []
  | node :: nodes => leaves node ++ leavesOfAll nodes

end

mutual

/-- The search for a handler goes through the unions with these arms. -/
def passedUnions : TypeExpr → List (List TypeExpr)
  | .parenthesized inner => passedUnions inner
  | .union arms => arms :: passedUnionsOfFirst arms
  | _ => []

def passedUnionsOfFirst : List TypeExpr → List (List TypeExpr)
  | [] => []
  | arm :: arms => if arm.isNullish then passedUnionsOfFirst arms else passedUnions arm

end

/-- Where an arm stands for a union, it has a leaf that is not nullish. -/
def Offering (unions : List (List TypeExpr)) : Prop :=
  ∀ arms ∈ unions, ∀ first ∈ (otherArms arms).head?, otherArms first.leaves ≠ []

/-- No nullish leaf is hidden: an arm that is gone into has another leaf, and where some leaf is
nullish, an arm of a passed union is itself nullish. -/
structure Exposed (type : TypeExpr) : Prop where
  offering : Offering type.passedUnions
  missing : hasNullish type.leaves = true → type.passedUnions.any hasNullish = true

theorem leaves_of_isNullish {type : TypeExpr} (nullish : type.isNullish = true) :
    type.leaves = [type] := by
  cases type with
  | keyword word => rfl
  | _ => simp [isNullish] at nullish

theorem otherArms_eq_nil_iff {arms : List TypeExpr} :
    otherArms arms = [] ↔ ∀ arm ∈ arms, arm.isNullish = true := by
  simp [otherArms]

theorem otherArms_append (first second : List TypeExpr) :
    otherArms (first ++ second) = otherArms first ++ otherArms second :=
  List.filter_append ..

theorem hasNullish_append (first second : List TypeExpr) :
    hasNullish (first ++ second) = (hasNullish first || hasNullish second) :=
  List.any_append

theorem offering_cons_iff {arms : List TypeExpr} {unions : List (List TypeExpr)} :
    Offering (arms :: unions) ↔
      (∀ first ∈ (otherArms arms).head?, otherArms first.leaves ≠ []) ∧ Offering unions :=
  List.forall_mem_cons

theorem hasNullish_leavesOfAll {arms : List TypeExpr} (nullish : hasNullish arms = true) :
    hasNullish (leavesOfAll arms) = true := by
  induction arms with
  | nil => simp [hasNullish] at nullish
  | cons arm arms inductionHypothesis =>
      rw [leavesOfAll, hasNullish_append, Bool.or_eq_true]
      cases first : arm.isNullish with
      | true =>
          rw [leaves_of_isNullish first]
          exact Or.inl (by simp [hasNullish, first])
      | false => exact Or.inr (inductionHypothesis (by simpa [hasNullish, first] using nullish))

mutual

/-- A nullish arm of a passed union is a leaf. -/
theorem hasNullish_leaves_of_passed :
    ∀ {type : TypeExpr}, type.passedUnions.any hasNullish = true →
      hasNullish type.leaves = true
  | .parenthesized inner, nullish => by
      rw [passedUnions] at nullish
      rw [leaves]
      exact hasNullish_leaves_of_passed nullish
  | .union arms, nullish => by
      rw [passedUnions, List.any_cons, Bool.or_eq_true] at nullish
      rw [leaves]
      obtain nullish | nullish := nullish
      · exact hasNullish_leavesOfAll nullish
      · exact hasNullish_leavesOfAll_of_passed nullish
  | .keyword _, nullish | .literal _, nullish | .reference _ _, nullish
  | .intersection _, nullish | .object _, nullish | .interfaceDecl _ _ _, nullish
  | .aliasDecl _ _, nullish => by
      simp [passedUnions] at nullish

theorem hasNullish_leavesOfAll_of_passed :
    ∀ {arms}, (passedUnionsOfFirst arms).any hasNullish = true →
      hasNullish (leavesOfAll arms) = true
  | [], nullish => by
      simp [passedUnionsOfFirst] at nullish
  | arm :: arms, nullish => by
      rw [passedUnionsOfFirst] at nullish
      rw [leavesOfAll, hasNullish_append, Bool.or_eq_true]
      split at nullish
      · exact Or.inr (hasNullish_leavesOfAll_of_passed nullish)
      · exact Or.inl (hasNullish_leaves_of_passed nullish)

end

end TypeExpr

namespace Handler

open TypeExpr

/-- The first leaf that is not nullish is the handler, and any nullish leaf makes it optional. -/
def ofLeaves (optional : Bool) (leaves : List TypeExpr) : Option Handler :=
  match otherArms leaves with
  | .reference name arguments :: _ =>
      (Dispatch.ofWrapperName? name).map fun dispatch =>
        ⟨dispatch, arguments, optional || hasNullish leaves⟩
  | _ => none

variable {config : Config} {optional : Bool} {handler : Handler}

/-- A reference is a handler exactly when it names a handler type. -/
theorem map_ofWrapperName?_eq_some_iff {name : String} {arguments : List TypeExpr} {flag : Bool} :
    ((Dispatch.ofWrapperName? name).map fun dispatch => (⟨dispatch, arguments, flag⟩ : Handler)) =
        some handler ↔
      TypeExpr.reference name arguments = handler.reference ∧ handler.optional = flag := by
  obtain ⟨dispatch, inner, optional⟩ := handler
  simp only [Option.map_eq_some_iff, Dispatch.ofWrapperName?_eq_some_iff, reference,
    TypeExpr.reference.injEq, Handler.mk.injEq]
  constructor
  · rintro ⟨_, named, rfl, rfl, rfl⟩
    exact ⟨⟨named, rfl⟩, rfl⟩
  · rintro ⟨⟨named, rfl⟩, rfl⟩
    exact ⟨dispatch, named, rfl, rfl, rfl⟩

theorem ofLeaves_eq_some_iff {leaves : List TypeExpr} :
    ofLeaves optional leaves = some handler ↔
      (otherArms leaves).head? = some handler.reference ∧
        handler.optional = (optional || hasNullish leaves) := by
  unfold ofLeaves
  split
  · next name arguments rest others =>
      rw [others, List.head?_cons, Option.some.injEq]
      exact map_ofWrapperName?_eq_some_iff
  · next noReference =>
      cases others : otherArms leaves with
      | nil => simp
      | cons first rest =>
          have different : first ≠ handler.reference := by
            intro same
            subst same
            exact noReference _ _ _ others
          simp [different]

mutual

/-- The search finds the first leaf that is not nullish where every arm that it goes into has one,
and it takes nullish arms of passed unions into account and no other leaves. -/
theorem detect_eq_some_iff :
    ∀ {optional type}, (detect config optional type).value = some handler ↔
      (otherArms type.leaves).head? = some handler.reference ∧
        Offering type.passedUnions ∧
        handler.optional = (optional || type.passedUnions.any hasNullish)
  | optional, .parenthesized inner => by
      rw [detect, leaves, passedUnions]
      exact detect_eq_some_iff
  | optional, .union arms => by
      rw [detect, Logged.value_bind, leaves, passedUnions, List.any_cons, ← Bool.or_assoc]
      exact detectFirst_eq_some_iff
  | optional, .reference name arguments => by
      rw [detect, Logged.value_pure, map_ofWrapperName?_eq_some_iff]
      simp [leaves, passedUnions, Offering, otherArms, isNullish]
  | optional, .keyword word => by
      cases nullish : word.isNullish <;>
        simp [detect, leaves, otherArms, isNullish, nullish, reference]
  | optional, .literal _ | optional, .intersection _ | optional, .object _
  | optional, .interfaceDecl _ _ _ | optional, .aliasDecl _ _ => by
      simp [detect, leaves, otherArms, isNullish, reference]

theorem detectFirst_eq_some_iff :
    ∀ {optional arms}, (detectFirst config optional arms).value = some handler ↔
      (otherArms (leavesOfAll arms)).head? = some handler.reference ∧
        Offering (arms :: passedUnionsOfFirst arms) ∧
        handler.optional = (optional || (passedUnionsOfFirst arms).any hasNullish)
  | optional, [] => by
      simp [detectFirst, leavesOfAll, otherArms]
  | optional, arm :: arms => by
      rw [detectFirst, passedUnionsOfFirst, leavesOfAll, otherArms_append, offering_cons_iff]
      cases nullish : arm.isNullish with
      | true =>
          -- The arm is its own leaf, and neither the search nor the leaves take notice of it.
          rw [if_pos rfl, if_pos rfl, leaves_of_isNullish nullish,
            otherArms_cons_nullish arms nullish, otherArms_cons_nullish [] nullish,
            detectFirst_eq_some_iff, offering_cons_iff]
          rfl
      | false =>
          -- The arm stands for the union, though it may have no other leaf than nullish ones.
          rw [if_neg (by decide), if_neg (by decide), otherArms_cons_other arms nullish,
            detect_eq_some_iff]
          cases others : otherArms arm.leaves with
          | nil => simp [others]
          | cons first rest => simp [others]

end

/-- A handler that is found is the first leaf that is not nullish, and it is optional only for a
reason. It is missed, or its flag is, exactly where a nullish leaf is hidden. -/
theorem detect_leaves (config : Config) (type : TypeExpr) :
    (∀ optional handler, (detect config optional type).value = some handler →
      (otherArms type.leaves).head? = some handler.reference ∧
        (optional = true → handler.optional = true) ∧
        (handler.optional = true → optional = true ∨ hasNullish type.leaves = true)) ∧
    ((∀ optional, (detect config optional type).value = ofLeaves optional type.leaves) ↔
      (ofLeaves false type.leaves ≠ none → type.Exposed)) := by
  refine ⟨?_, ?_, ?_⟩
  · intro optional handler found
    obtain ⟨leaf, -, flag⟩ := detect_eq_some_iff.mp found
    refine ⟨leaf, ?_, ?_⟩
    · intro given
      simp [flag, given]
    · intro set
      rw [flag, Bool.or_eq_true] at set
      exact set.imp_right hasNullish_leaves_of_passed
  · intro agrees present
    obtain ⟨handler, leafHandler⟩ := Option.ne_none_iff_exists'.mp present
    obtain ⟨-, offering, flag⟩ := detect_eq_some_iff.mp ((agrees false).trans leafHandler)
    obtain ⟨-, leafFlag⟩ := ofLeaves_eq_some_iff.mp leafHandler
    refine ⟨offering, ?_⟩
    intro nullish
    rw [leafFlag, nullish] at flag
    simpa using flag.symm
  · intro exposed optional
    apply Option.ext
    intro handler
    rw [detect_eq_some_iff, ofLeaves_eq_some_iff]
    refine and_congr_right ?_
    intro leaf
    have present : ofLeaves false type.leaves ≠ none := by
      have found : ofLeaves false type.leaves =
          some ⟨handler.dispatch, handler.arguments, false || hasNullish type.leaves⟩ :=
        ofLeaves_eq_some_iff.mpr ⟨leaf, rfl⟩
      rw [found]
      exact Option.some_ne_none _
    obtain ⟨offering, missing⟩ := exposed present
    have same : type.passedUnions.any hasNullish = hasNullish type.leaves :=
      Bool.eq_iff_iff.mpr ⟨hasNullish_leaves_of_passed, missing⟩
    simp [offering, same]

/-- A handler in parentheses is found beside null, which makes it optional with either flag. -/
theorem detect_leaves_nested :
    let handler : TypeExpr := .handler .bubble (.object []) none
    let inner : TypeExpr := .union [.keyword .null, .parenthesized handler]
    let type : TypeExpr := .union [.parenthesized inner, .keyword .undefined]
    type.Exposed ∧ ∀ optional, (detect .standard optional type).value =
      some ⟨.bubble, [.object []], true⟩ := by
  intro handler inner type
  have offering : Offering type.passedUnions := by
    simp [type, inner, handler, Offering, passedUnions, passedUnionsOfFirst, leaves, leavesOfAll,
      otherArms, isNullish, Keyword.isNullish, TypeExpr.handler]
  have exposed : type.Exposed := ⟨offering, fun _ => rfl⟩
  refine ⟨exposed, ?_⟩
  intro optional
  rw [(detect_leaves .standard type).2.mpr fun _ => exposed]
  cases optional <;> rfl

/-- A null in parentheses before the handler hides it, and one after it hides its flag. -/
theorem detect_hiddenNull :
    let null : TypeExpr := .parenthesized (.keyword .null)
    let handler : TypeExpr := .handler .direct (.keyword .null) none
    ((detect .standard false (.union [null, handler])).value = none ∧
      ofLeaves false (TypeExpr.union [null, handler]).leaves =
        some ⟨.direct, [.keyword .null], true⟩) ∧
    (detect .standard false (.union [handler, null])).value =
        some ⟨.direct, [.keyword .null], false⟩ ∧
      ofLeaves false (TypeExpr.union [handler, null]).leaves =
        some ⟨.direct, [.keyword .null], true⟩ :=
  ⟨⟨rfl, rfl⟩, rfl, rfl⟩

end Handler
end ComponentEvents
