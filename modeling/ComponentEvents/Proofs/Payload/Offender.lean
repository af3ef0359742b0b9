/-
This file finds the part of a type for which the type is refused.
-/

import ComponentEvents.Payload.Fields
import ComponentEvents.Proofs.Traversal
import Mathlib.Logic.ExistsUnique
import Mathlib.Logic.Relation

namespace ComponentEvents

namespace Payload

open Extraction TypeExpr

/-- A node stands under the name of the innermost property around it. -/
structure Site where
  name : String
  node : Node

namespace Site

/-- A property gives its name to its type, and any other member stands under its own label. -/
def ofMember : Member → Site
  | .property key type _ => ⟨key, .type type⟩
  | other => ⟨other.label, .member other⟩

variable (config : Config)

/-- One part decides about a node and comes next. In an object this is the first member that fails
alone. -/
inductive Next : Site → Site → Prop
  | parenthesized (name : String) (inner : TypeExpr) :
      Next ⟨name, .type (.parenthesized inner)⟩ ⟨name, .type inner⟩
  | readonly (name : String) (first : TypeExpr) (rest : List TypeExpr) :
      Next ⟨name, .type (.reference readonlyName (first :: rest))⟩ ⟨name, .type first⟩
  | nullable (name : String) {arms rest : List TypeExpr} {first : TypeExpr}
      (nullish : hasNullish arms = true) (others : otherArms arms = first :: rest) :
      Next ⟨name, .type (.union arms)⟩ ⟨name, .type first⟩
  | object (name : String) {members before after : List Member} {member : Member}
      (split : members = before ++ member :: after)
      (earlier : ∀ other ∈ before, ∃ found, (memberField config other).run.value = .ok found)
      (failed : ∃ error, (memberField config member).run.value = .error error) :
      Next ⟨name, .type (.object members)⟩ (ofMember member)

/-- No part decides about the node that is reached. -/
def Offender (start site : Site) : Prop :=
  Relation.ReflTransGen (Next config) start site ∧ ∀ next, ¬Next config site next

/-- A node fails whether or not its property may be missing. -/
def Fails (site : Site) (error : ExtractionError) : Prop :=
  ∀ optional, (nodeField config site.name optional site.node).run.value = .error error

end Site

variable (config : Config)

/-- An object fails as its members do. -/
theorem field_object_eq_error_iff {error : ExtractionError} (name : String) (optional : Bool)
    (members : List Member) :
    (field config name optional (.object members)).run.value = .error error ↔
      (memberFields config members).run.value = .error error := by
  rw [field, bind_pure_comp, run_map]
  cases (memberFields config members).run.value <;> simp [Except.map]

theorem failFast_memberFields :
    FailFast (fun member => (memberField config member).run.value)
      (fun members => (memberFields config members).run.value) where
  nil := ⟨[], rfl⟩
  failed := by
    intro member error rest failed
    rw [memberFields, run_bind_error failed]
  passed := by
    intro member found passed
    refine ⟨(found :: ·), ?_⟩
    intro rest
    rw [memberFields, run_bind_ok passed, bind_pure_comp, run_map]

variable {config} {error : ExtractionError}

/-- The flag of a field has no part in a failure. -/
theorem field_failed_flag (name : String) (optional optional' : Bool) :
    ∀ type, (field config name optional type).run.value = .error error →
      (field config name optional' type).run.value = .error error
  | .parenthesized inner => by
      rw [field, field]
      exact field_failed_flag name optional optional' inner
  | .reference target arguments => by
      unfold field
      split
      · intro failed
        cases failed
      · cases arguments with
        | nil => exact id
        | cons first rest =>
            by_cases readonly : target = readonlyName
            · simpa only [if_pos readonly] using field_failed_flag name optional optional' first
            · simpa only [if_neg readonly] using id
  | .union arms => by
      unfold field
      split
      · exact id
      · split
        · intro failed
          cases failed
        · exact id
  | .object members => by
      rw [field_object_eq_error_iff, field_object_eq_error_iff]
      exact id
  | .keyword word => by
      cases word <;> simp [field]
  | .literal _ | .intersection _ | .interfaceDecl _ _ _ | .aliasDecl _ _ => by
      simp [field]

namespace Site

theorem fails_type_iff {name : String} {type : TypeExpr} (optional : Bool) :
    Fails config ⟨name, .type type⟩ error ↔
      (field config name optional type).run.value = .error error := by
  constructor
  · intro fails
    exact fails optional
  · intro failed optional'
    exact field_failed_flag name optional optional' type failed

/-- A member fails as the site that it stands for. -/
theorem fails_ofMember_iff {member : Member} :
    Fails config (ofMember member) error ↔
      (memberField config member).run.value = .error error := by
  cases member with
  | property key type optional => exact fails_type_iff optional
  | _ => exact ⟨fun fails => fails false, fun failed _ => failed⟩

/-- A step keeps the failure as it is. -/
theorem Next.fails_iff {site next : Site} (step : Next config site next) :
    Fails config site error ↔ Fails config next error := by
  cases step with
  | parenthesized name inner =>
      rw [fails_type_iff false, fails_type_iff false, field]
  | readonly name first rest =>
      rw [fails_type_iff false, fails_type_iff false]
      simp [field, readonlyName, Scalar.ofTypeName?]
  | nullable name nullish others =>
      rw [fails_type_iff false, value_field_nullish config name false nullish others,
        fails_type_iff true]
  | object name split earlier failed =>
      rw [fails_type_iff false, field_object_eq_error_iff, fails_ofMember_iff, split]
      exact (failFast_memberFields config).append_eq_error_iff _ earlier failed

/-- A whole way keeps the failure as it is. -/
theorem fails_iff_of_reached {start site : Site}
    (reached : Relation.ReflTransGen (Next config) start site) :
    Fails config start error ↔ Fails config site error := by
  induction reached with
  | refl => rfl
  | tail _ step inductionHypothesis => exact inductionHypothesis.trans step.fails_iff

/-- Where no part decides, the failure is about the node itself. -/
theorem fails_last {site : Site} (fails : Fails config site error)
    (last : ∀ next, ¬Next config site next) :
    error = .ofCause (.unsupportedProperty site.name site.node.kindLabel) := by
  have failed := fails false
  obtain ⟨name, node⟩ := site
  cases node with
  | member member =>
      cases failed
      rfl
  | type type =>
      cases type with
      | parenthesized inner => exact (last _ (.parenthesized name inner)).elim
      | keyword word => cases word <;> cases failed <;> rfl
      | reference target arguments =>
          dsimp only [nodeField] at failed
          unfold field at failed
          split at failed
          · cases failed
          · cases arguments with
            | nil =>
                cases failed
                rfl
            | cons first rest =>
                by_cases readonly : target = readonlyName
                · subst readonly
                  exact (last _ (.readonly name first rest)).elim
                · simp only [if_neg readonly] at failed
                  cases failed
                  rfl
      | object members =>
          dsimp only [nodeField] at failed
          rw [field_object_eq_error_iff] at failed
          obtain ⟨before, member, after, split, earlier, failed⟩ :=
            (failFast_memberFields config).eq_error_iff.mp failed
          exact (last _ (.object name split earlier ⟨error, failed⟩)).elim
      | union arms =>
          by_cases nullish : hasNullish arms = true
          · cases others : otherArms arms with
            | nil =>
                dsimp only [nodeField] at failed
                rw [field, if_pos nullish, run_bind_ok rfl, firstField_eq, others] at failed
                cases failed
                rfl
            | cons first rest => exact (last _ (.nullable name nullish others)).elim
          · dsimp only [nodeField] at failed
            unfold field at failed
            rw [if_neg nullish] at failed
            split at failed
            · cases failed
            · cases failed
              rfl
      | _ =>
          cases failed
          rfl

theorem Next.rightUnique : Relator.RightUnique (Next config) := by
  intro site next next' step step'
  cases step with
  | parenthesized name inner =>
      cases step'
      rfl
  | readonly name first rest =>
      cases step'
      rfl
  | nullable name nullish others =>
      cases step' with
      | nullable _ _ others' =>
          cases others.symm.trans others'
          rfl
  | object name split earlier failed =>
      cases step' with
      | object _ split' earlier' failed' =>
          rw [FailFast.first_failure_unique (split.symm.trans split') earlier failed earlier'
            failed']

/-- Only one way leads from a node. -/
theorem Offender.unique {start site site' : Site} (offender : Offender config start site)
    (offender' : Offender config start site') : site = site' := by
  obtain ⟨reached, last⟩ := offender
  obtain ⟨reached', last'⟩ := offender'
  rcases Relation.ReflTransGen.total_of_right_unique Next.rightUnique reached reached' with
    goesOn | goesOn
  · rcases goesOn.cases_head with same | ⟨next, step, -⟩
    · exact same
    · exact (last next step).elim
  · rcases goesOn.cases_head with same | ⟨next, step, -⟩
    · exact same.symm
    · exact (last' next step).elim

/-- A failure is about the offender. -/
theorem Offender.fails {start site : Site} (offender : Offender config start site)
    (fails : Fails config start error) :
    error = .ofCause (.unsupportedProperty site.name site.node.kindLabel) :=
  fails_last ((fails_iff_of_reached offender.1).mp fails) offender.2

end Site

variable (config) in
/-- Two types agree up to their offender. They may differ in what is not on the way to it, which
stands behind an argument, beside an arm or behind a member, and in the flags of properties. -/
inductive AgreeToOffender : TypeExpr → TypeExpr → Prop
  | same (type : TypeExpr) : AgreeToOffender type type
  | parenthesized {inner inner' : TypeExpr} (inside : AgreeToOffender inner inner') :
      AgreeToOffender (.parenthesized inner) (.parenthesized inner')
  | readonly {first first' : TypeExpr} (rest rest' : List TypeExpr)
      (inside : AgreeToOffender first first') :
      AgreeToOffender (.reference readonlyName (first :: rest))
        (.reference readonlyName (first' :: rest'))
  | nullable {arms arms' rest rest' : List TypeExpr} {first first' : TypeExpr}
      (nullish : hasNullish arms = true) (others : otherArms arms = first :: rest)
      (nullish' : hasNullish arms' = true) (others' : otherArms arms' = first' :: rest')
      (inside : AgreeToOffender first first') : AgreeToOffender (.union arms) (.union arms')
  | member {before : List Member} {member : Member} (after after' : List Member)
      (earlier : ∀ other ∈ before, ∃ found, (memberField config other).run.value = .ok found)
      (failed : ∃ error, (memberField config member).run.value = .error error) :
      AgreeToOffender (.object (before ++ member :: after)) (.object (before ++ member :: after'))
  | property {before : List Member} {key : String} {type type' : TypeExpr}
      (optional optional' : Bool) (after after' : List Member)
      (earlier : ∀ other ∈ before, ∃ found, (memberField config other).run.value = .ok found)
      (failed : ∃ error,
        (memberField config (.property key type optional)).run.value = .error error)
      (inside : AgreeToOffender type type') :
      AgreeToOffender (.object (before ++ .property key type optional :: after))
        (.object (before ++ .property key type' optional' :: after'))

/-- What is not on the way to the offender has no part in a failure. -/
theorem AgreeToOffender.fails {type type' : TypeExpr} (agree : AgreeToOffender config type type') :
    ∀ {name : String} {error : ExtractionError}, Site.Fails config ⟨name, .type type⟩ error →
      Site.Fails config ⟨name, .type type'⟩ error := by
  induction agree with
  | same type => exact id
  | @parenthesized inner inner' inside inductionHypothesis =>
      intro name error
      rw [(Site.Next.parenthesized name inner).fails_iff,
        (Site.Next.parenthesized name inner').fails_iff]
      exact inductionHypothesis
  | @readonly first first' rest rest' inside inductionHypothesis =>
      intro name error
      rw [(Site.Next.readonly name first rest).fails_iff,
        (Site.Next.readonly name first' rest').fails_iff]
      exact inductionHypothesis
  | nullable nullish others nullish' others' inside inductionHypothesis =>
      intro name error
      rw [(Site.Next.nullable name nullish others).fails_iff,
        (Site.Next.nullable name nullish' others').fails_iff]
      exact inductionHypothesis
  | member after after' earlier failed =>
      intro name error
      rw [(Site.Next.object name rfl earlier failed).fails_iff,
        (Site.Next.object name rfl earlier failed).fails_iff]
      exact id
  | @property before key type type' optional optional' after after' earlier failed inside
      inductionHypothesis =>
      -- The changed member fails too, with the error of the inner type.
      have failed' : ∃ error,
          (memberField config (.property key type' optional')).run.value = .error error := by
        obtain ⟨error, failed⟩ := failed
        have fails := inductionHypothesis (Site.fails_ofMember_iff.mpr failed)
        exact ⟨error, (Site.fails_type_iff optional').mp fails⟩
      intro name error
      rw [(Site.Next.object name rfl earlier failed).fails_iff,
        (Site.Next.object name rfl earlier failed').fails_iff]
      exact inductionHypothesis

end Payload
end ComponentEvents
