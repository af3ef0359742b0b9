/-
This file shows that the notes of an extraction account for every member.
-/

import ComponentEvents.Proofs.Extraction.Batch
import ComponentEvents.Proofs.Extraction.Optionality
import ComponentEvents.Proofs.Extraction.Sources

namespace ComponentEvents

/-- Any other member is skipped. -/
def Member.isProperty : Member → Bool
  | .property _ _ _ => true
  | _ => false

/-- Such a property is searched for a handler in vain. -/
def Member.isLeftOut (config : Config) (member : Member) : Bool :=
  member.isProperty && !member.declaresEvent config

namespace Extraction

variable {α β : Type}

/-- A computation of two parts returns where both parts do. -/
theorem run_bind_eq_ok_iff {first : Extraction α} {next : α → Extraction β}
    {notes : List LogEntry} {result : β} :
    (first >>= next).run = ⟨notes, .ok result⟩ ↔
      ∃ value before after, first.run = ⟨before, .ok value⟩ ∧
        (next value).run = ⟨after, .ok result⟩ ∧ notes = before ++ after := by
  constructor
  · intro returned
    cases outcome : first.run.value with
    | error error =>
        rw [run_bind_error outcome, Logged.mk.injEq] at returned
        cases returned.2
    | ok value =>
        rw [run_bind_ok outcome, Logged.mk.injEq] at returned
        exact ⟨value, first.run.log, (next value).run.log, Logged.ext rfl outcome,
          Logged.ext rfl returned.2, returned.1.symm⟩
  · intro given
    obtain ⟨value, before, after, succeeded, followed, rfl⟩ := given
    rw [run_bind_ok (congrArg Logged.value succeeded), succeeded, followed]

theorem run_inEvent_eq_ok_iff {event : String} {extraction : Extraction α}
    {notes : List LogEntry} {value : α} :
    (inEvent event extraction).run = ⟨notes, .ok value⟩ ↔
      extraction.run = ⟨notes, .ok value⟩ := by
  rw [Logged.ext_iff, Logged.ext_iff, log_inEvent, value_inEvent_eq_ok_iff]

variable {config : Config} {declarations : Declarations} {member : Member}
  {members : List Member} {notes : List LogEntry} {outcome : Option (Event String Bool)}
  {found : List (Event String Bool)}

/-- These are the notes that a member makes beside what becomes of it. A property is searched for a
handler; one with a handler is an event after the walk to its payload and the fields of that. -/
inductive Accounts (config : Config) (declarations : Declarations) :
    Member → List LogEntry → Option (Event String Bool) → Prop
  | skipped {member : Member} (other : member.isProperty = false) :
      Accounts config declarations member [.skipped member.nodeKind] none
  | leftOut {key : String} {type : TypeExpr} {optional : Bool} {searched : List LogEntry}
      (searching : Handler.detect config optional type = ⟨searched, none⟩)
      (fromSearch : FromSource .search searched) :
      Accounts config declarations (.property key type optional)
        (searched ++ [.notHandler key]) none
  | event {key : String} {type : TypeExpr} {optional : Bool} {handler : Handler}
      {searched walked mapped : List LogEntry} {payload : List Member} {dispatch : Dispatch}
      {legacy : Option String} {fields : List (Field String Bool)}
      (searching : Handler.detect config optional type = ⟨searched, some handler⟩)
      (fromSearch : FromSource .search searched)
      (walking : (Payload.resolve config declarations [] none none handler.reference).run =
        ⟨walked, .ok ⟨some payload, some dispatch, legacy⟩⟩)
      (fromWalk : FromSource .walk walked)
      (mapping : (Payload.memberFields config payload).run = ⟨mapped, .ok fields⟩)
      (fromFields : FromSource .fields mapped) :
      Accounts config declarations (.property key type optional)
        (searched ++ (walked ++ mapped))
        (some ⟨key, handler.optional, dispatch, legacy, fields⟩)

/-- The walk to the payload and its fields make the notes of an event. -/
theorem run_handlerEvent_eq_ok_iff {key : String} {handler : Handler} {event : Event String Bool} :
    (handlerEvent config declarations key handler).run = ⟨notes, .ok event⟩ ↔
      ∃ walked mapped payload dispatch legacy fields,
        (Payload.resolve config declarations [] none none handler.reference).run =
          ⟨walked, .ok ⟨some payload, some dispatch, legacy⟩⟩ ∧
        (Payload.memberFields config payload).run = ⟨mapped, .ok fields⟩ ∧
        notes = walked ++ mapped ∧ event = ⟨key, handler.optional, dispatch, legacy, fields⟩ := by
  rw [handlerEvent, run_bind_eq_ok_iff]
  constructor
  · intro given
    obtain ⟨⟨members, dispatch, legacy⟩, walked, after, walking, completed, rfl⟩ := given
    split at completed
    · next payload dispatch known dispatched =>
        cases known
        cases dispatched
        obtain ⟨fields, mapped, last, mapping, made, rfl⟩ := run_bind_eq_ok_iff.mp completed
        cases made
        exact ⟨walked, mapped, payload, dispatch, legacy, fields, walking, mapping,
          by rw [List.append_nil], rfl⟩
    · cases completed
  · intro given
    obtain ⟨walked, mapped, payload, dispatch, legacy, fields, walking, mapping, rfl, rfl⟩ := given
    refine ⟨_, walked, mapped, walking, ?_, rfl⟩
    exact run_bind_eq_ok_iff.mpr ⟨fields, mapped, [], mapping, rfl, (List.append_nil _).symm⟩

/-- A member is extracted exactly as its notes account for it. -/
theorem run_memberEvent_eq_ok_iff :
    (memberEvent config declarations member).run = ⟨notes, .ok outcome⟩ ↔
      Accounts config declarations member notes outcome := by
  constructor
  · intro extracted
    cases member with
    | property key type optional =>
        rw [memberEvent, propertyEvent, run_bind_eq_ok_iff] at extracted
        obtain ⟨handler, searched, after, searching, completed, rfl⟩ := extracted
        rw [run_monadLift, Logged.mk.injEq, Except.ok.injEq] at searching
        have detected : Handler.detect config optional type = ⟨searched, handler⟩ :=
          Logged.ext searching.1 searching.2
        have fromSearch : FromSource .search searched := searching.1 ▸ Handler.detect_fromSource
        cases handler with
        | none =>
            cases completed
            exact .leftOut detected fromSearch
        | some handler =>
            obtain ⟨event, noted, last, made, returned, rfl⟩ := run_bind_eq_ok_iff.mp completed
            cases returned
            rw [run_inEvent_eq_ok_iff, run_handlerEvent_eq_ok_iff] at made
            obtain ⟨_, _, payload, _, _, _, walking, mapping, rfl, rfl⟩ := made
            rw [List.append_nil]
            have fromWalk := Payload.resolve_fromSource config declarations [] none none
              handler.reference
            have fromFields : FromSource .fields (Payload.memberFields config payload).run.log :=
              Payload.memberFields_fromSource payload
            rw [walking] at fromWalk
            rw [mapping] at fromFields
            exact .event detected fromSearch walking fromWalk mapping fromFields
    | _ =>
        cases extracted
        exact .skipped rfl
  · intro accounts
    cases accounts with
    | skipped other =>
        cases member with
        | property key type optional => cases other
        | _ => rfl
    | leftOut searching =>
        refine run_bind_eq_ok_iff.mpr ⟨none, _, _, ?_, rfl, rfl⟩
        rw [run_monadLift, searching]
    | event searching _ walking _ mapping _ =>
        exact run_propertyEvent_made _ _ _ searching
          (run_handlerEvent_eq_ok_iff.mpr ⟨_, _, _, _, _, _, walking, mapping, rfl, rfl⟩)

/-- The members are accounted for one after the other. -/
theorem run_memberEvents_eq_ok_iff :
    (memberEvents config declarations members).run = ⟨notes, .ok found⟩ ↔
      ∃ accounts : List (List LogEntry × Option (Event String Bool)),
        List.Forall₂ (fun member account =>
          Accounts config declarations member account.1 account.2) members accounts ∧
        notes = accounts.flatMap Prod.fst ∧ found = accounts.flatMap (·.2.toList) := by
  induction members generalizing notes found with
  | nil =>
      simp only [memberEvents, run_pure, Logged.mk.injEq, Except.ok.injEq,
        List.forall₂_nil_left_iff, exists_eq_left, List.flatMap_nil, eq_comm]
  | cons member members inductionHypothesis =>
      rw [memberEvents, run_bind_eq_ok_iff]
      simp only [List.forall₂_cons_left_iff]
      constructor
      · intro extracted
        obtain ⟨outcome, noted, after, first, completed, rfl⟩ := extracted
        obtain ⟨others, notedRest, last, rest, returned, rfl⟩ := run_bind_eq_ok_iff.mp completed
        cases returned
        obtain ⟨accounts, each, rfl, rfl⟩ := inductionHypothesis.mp rest
        refine ⟨(noted, outcome) :: accounts,
          ⟨(noted, outcome), accounts, run_memberEvent_eq_ok_iff.mp first, each, rfl⟩, ?_, rfl⟩
        rw [List.append_nil, List.flatMap_cons]
      · intro given
        obtain ⟨_, ⟨account, accounts, first, each, rfl⟩, rfl, rfl⟩ := given
        have rest := inductionHypothesis.mpr ⟨accounts, each, rfl, rfl⟩
        refine ⟨account.2, account.1, _, run_memberEvent_eq_ok_iff.mpr first, ?_, rfl⟩
        exact run_bind_eq_ok_iff.mpr ⟨_, _, [], rest, rfl, (List.append_nil _).symm⟩

/-- The summary follows the accounts of the members. -/
theorem run_events_eq_ok_iff :
    (events config declarations members).run = ⟨notes, .ok found⟩ ↔
      ∃ accounts : List (List LogEntry × Option (Event String Bool)),
        List.Forall₂ (fun member account =>
          Accounts config declarations member account.1 account.2) members accounts ∧
        notes = accounts.flatMap Prod.fst ++ [.extracted found.length members.length] ∧
        found = accounts.flatMap (·.2.toList) := by
  rw [events, run_bind_eq_ok_iff]
  constructor
  · intro extracted
    obtain ⟨others, noted, after, made, returned, rfl⟩ := extracted
    cases returned
    obtain ⟨accounts, each, rfl, rfl⟩ := run_memberEvents_eq_ok_iff.mp made
    exact ⟨accounts, each, rfl, rfl⟩
  · intro given
    obtain ⟨accounts, each, rfl, rfl⟩ := given
    exact ⟨_, _, _, run_memberEvents_eq_ok_iff.mpr ⟨accounts, each, rfl, rfl⟩, rfl, rfl⟩

/-- A member that stands alone makes the same notes before the summary. -/
theorem Accounts.run_singleton (accounts : Accounts config declarations member notes outcome) :
    (events config declarations [member]).run =
      ⟨notes ++ [.extracted outcome.toList.length 1], .ok outcome.toList⟩ := by
  refine run_events_eq_ok_iff.mpr ⟨[(notes, outcome)], .cons accounts .nil, ?_, ?_⟩
  · simp
  · simp

/-- Each member is counted once. It is skipped, left out or an event, and the notes tell which. -/
structure Tally (config : Config) (members : List Member) (notes : List LogEntry)
    (events : Nat) : Prop where
  skipped : notes.countP (·.source = .batch) = members.countP (!·.isProperty)
  leftOut : notes.countP (·.source = .property) = members.countP (·.isLeftOut config)
  complete : members.countP (!·.isProperty) + members.countP (·.isLeftOut config) + events =
    members.length

namespace Tally

theorem nil (config : Config) : Tally config [] [] 0 := ⟨rfl, rfl, rfl⟩

theorem append {members' : List Member} {notes' : List LogEntry} {events events' : Nat}
    (first : Tally config members notes events) (rest : Tally config members' notes' events') :
    Tally config (members ++ members') (notes ++ notes') (events + events') where
  skipped := by rw [List.countP_append, List.countP_append, first.skipped, rest.skipped]
  leftOut := by rw [List.countP_append, List.countP_append, first.leftOut, rest.leftOut]
  complete := by
    rw [List.countP_append, List.countP_append, List.length_append, ← first.complete,
      ← rest.complete]
    omega

end Tally

/-- One member is counted once. -/
theorem Accounts.tally (accounts : Accounts config declarations member notes outcome) :
    Tally config [member] notes outcome.toList.length := by
  cases accounts with
  | skipped other =>
      constructor <;> simp [other, LogEntry.source, Member.isLeftOut]
  | @leftOut key type optional searched searching fromSearch =>
      have noBatch : searched.countP (·.source = .batch) = 0 :=
        fromSearch.countP_eq_zero (by decide)
      have noProperty : searched.countP (·.source = .property) = 0 :=
        fromSearch.countP_eq_zero (by decide)
      have vain : (Member.property key type optional).isLeftOut config = true := by
        simp [Member.isLeftOut, Member.isProperty, Member.declaresEvent, Handler.ofMember,
          searching]
      constructor
      · rw [List.countP_append, noBatch]
        rfl
      · rw [List.countP_append, noProperty, List.countP_cons_of_pos vain]
        rfl
      · rw [List.countP_cons_of_pos vain]
        rfl
  | @event key type optional _ searched walked mapped _ _ _ _ searching fromSearch _ fromWalk _
      fromFields =>
      have uncounted : ∀ source, source ≠ .search → source ≠ .walk → source ≠ .fields →
          (searched ++ (walked ++ mapped)).countP (·.source = source) = 0 := by
        intro source notSearch notWalk notFields
        rw [List.countP_append, List.countP_append, fromSearch.countP_eq_zero notSearch,
          fromWalk.countP_eq_zero notWalk, fromFields.countP_eq_zero notFields]
      have notVain : ¬(Member.property key type optional).isLeftOut config = true := by
        simp [Member.isLeftOut, Member.isProperty, Member.declaresEvent, Handler.ofMember,
          searching]
      constructor
      · rw [uncounted .batch (by decide) (by decide) (by decide)]
        rfl
      · rw [uncounted .property (by decide) (by decide) (by decide),
          List.countP_cons_of_neg notVain]
        rfl
      · rw [List.countP_cons_of_neg notVain]
        rfl

/-- The members are counted once each. -/
theorem tally_of_accounts {accounts : List (List LogEntry × Option (Event String Bool))}
    (each : List.Forall₂ (fun member account =>
      Accounts config declarations member account.1 account.2) members accounts) :
    Tally config members (accounts.flatMap Prod.fst) (accounts.flatMap (·.2.toList)).length := by
  induction each with
  | nil => exact .nil config
  | @cons member account members accounts first _ inductionHypothesis =>
      rw [List.flatMap_cons, List.flatMap_cons, List.length_append]
      exact first.tally.append inductionHypothesis

/-- The notes of an extraction are those of each member in turn, as the member makes them alone,
and a summary. Every member is skipped, left out or an event, and the notes and the summary count
them so. -/
theorem events_accounts (extracted : (events config declarations members).run =
    ⟨notes, .ok found⟩) :
    ∃ accounts : List (List LogEntry × Option (Event String Bool)),
      List.Forall₂ (fun member account =>
        Accounts config declarations member account.1 account.2 ∧
          (events config declarations [member]).run =
            ⟨account.1 ++ [.extracted account.2.toList.length 1], .ok account.2.toList⟩)
        members accounts ∧
      notes = accounts.flatMap Prod.fst ++ [.extracted found.length members.length] ∧
      found = accounts.flatMap (·.2.toList) ∧
      Tally config members (accounts.flatMap Prod.fst) found.length := by
  obtain ⟨accounts, each, rfl, rfl⟩ := run_events_eq_ok_iff.mp extracted
  refine ⟨accounts, each.imp ?_, rfl, rfl, tally_of_accounts each⟩
  intro member account accounted
  exact ⟨accounted, accounted.run_singleton⟩

/-- A method, a property without a handler and an event that drops arms of two unions are counted
once each. -/
theorem events_accounts_mixed :
    let shape : TypeExpr := .union [.keyword .string, .keyword .boolean, .keyword .null]
    let payload : List Member := [.property "kind" shape false]
    let declarations : Declarations := ⟨[("Info", .object payload)]⟩
    let handler : TypeExpr := .handler .direct (.named "Info") none
    let type : TypeExpr := .union [handler, .keyword .string]
    let members : List Member := [.method "measure", .property "title" (.keyword .string) false,
      .property "onLoad" type false]
    let notes : List LogEntry := [.skipped "TSMethodSignature", .notHandler "title",
      .handlerArmsDropped type 2 handler, .resolved "Info" "TSTypeLiteral",
      .propertyArmsDropped "kind" shape 2 (.keyword .string)]
    (events .standard declarations members).run =
        ⟨notes ++ [.extracted 1 3],
          .ok [⟨"onLoad", false, .direct, none, [.mk "kind" true (.scalar .string)]⟩]⟩ ∧
      Tally .standard members notes 1 := by
  intro shape payload declarations handler type members notes
  have walking : (Payload.resolve .standard declarations [] none none
      (Handler.reference ⟨.direct, [.named "Info"], false⟩)).run =
        ⟨[.resolved "Info" "TSTypeLiteral"], .ok ⟨some payload, some .direct, none⟩⟩ := by
    have admitted : Config.standard.Admits [] "Info" := by decide
    rw [Handler.reference, Payload.resolve_payload none none rfl rfl, TypeExpr.named,
      Payload.resolve_admitted _ _ [] (by decide) rfl rfl admitted]
    simp only [TypeExpr.unaliased, Payload.resolve_object]
    rfl
  have method : Accounts .standard declarations (.method "measure")
      [.skipped "TSMethodSignature"] none := .skipped rfl
  have title : Accounts .standard declarations (.property "title" (.keyword .string) false)
      ([] ++ [.notHandler "title"]) none := .leftOut rfl (.nil _)
  have load : Accounts .standard declarations (.property "onLoad" type false)
      ([.handlerArmsDropped type 2 handler] ++ ([.resolved "Info" "TSTypeLiteral"] ++
        [.propertyArmsDropped "kind" shape 2 (.keyword .string)]))
      (some ⟨"onLoad", false, .direct, none, [.mk "kind" true (.scalar .string)]⟩) :=
    .event rfl (List.forall_mem_singleton.mpr rfl) walking (List.forall_mem_singleton.mpr rfl) rfl
      (List.forall_mem_singleton.mpr rfl)
  have extracted : (events .standard declarations members).run =
      ⟨notes ++ [.extracted 1 3],
        .ok [⟨"onLoad", false, .direct, none, [.mk "kind" true (.scalar .string)]⟩]⟩ :=
    run_events_eq_ok_iff.mpr ⟨[(_, _), (_, _), (_, _)],
      .cons method (.cons title (.cons load .nil)), rfl, rfl⟩
  obtain ⟨accounts, -, noted, -, tally⟩ := events_accounts extracted
  have same : notes = accounts.flatMap Prod.fst := List.append_cancel_right noted
  exact ⟨extracted, same ▸ tally⟩

end Extraction
end ComponentEvents
