/-
This file shows what the chain of a refused name tells of the way to it.
-/

import Mathlib.Data.List.Chain
import ComponentEvents.Proofs.Walk.Agreement
import ComponentEvents.Proofs.Walk.Refusal

namespace ComponentEvents

namespace TypeExpr

/-- A reference to the name stands where a walk from the node looks. -/
def Refers (node : TypeExpr) (name : String) : Prop :=
  ∃ arguments, node.Leads (.reference name arguments)

/-- An interface of the name stands where a walk from the node looks. -/
def Holds (node : TypeExpr) (name : String) : Prop :=
  ∃ own heritage, node.Leads (.interfaceDecl name own heritage)

/-- The name stands where a walk from the node looks. -/
def Meets (node : TypeExpr) (name : String) : Prop :=
  node.Refers name ∨ node.Holds name

theorem Refers.above {node below : TypeExpr} {name : String} (refers : below.Refers name)
    (leads : node.Leads below) : node.Refers name := by
  obtain ⟨arguments, leads'⟩ := refers
  exact ⟨arguments, leads.trans leads'⟩

theorem Holds.above {node below : TypeExpr} {name : String} (holds : below.Holds name)
    (leads : node.Leads below) : node.Holds name := by
  obtain ⟨own, heritage, leads'⟩ := holds
  exact ⟨own, heritage, leads.trans leads'⟩

end TypeExpr

namespace Declarations

/-- The definition of the first name refers to the second. -/
def Refers (declarations : Declarations) (name other : String) : Prop :=
  ∃ definition, declarations.find? name = some definition ∧ definition.unaliased.Refers other

/-- The definition of the first name holds an interface of another name, the second. -/
def Holds (declarations : Declarations) (name other : String) : Prop :=
  other ≠ name ∧
    ∃ definition, declarations.find? name = some definition ∧ definition.unaliased.Holds other

/-- The second name stands in the definition of the first. -/
def Meets (declarations : Declarations) (name other : String) : Prop :=
  declarations.Refers name other ∨ declarations.Holds name other

/-- Interfaces are met by their names alone. -/
def ByName (declarations : Declarations) : Prop :=
  ∀ name other, ¬declarations.Holds name other

theorem ByName.of_entries {declarations : Declarations}
    (own : ∀ entry ∈ declarations.entries, ∀ other, entry.2.unaliased.Holds other →
      other = entry.1) : declarations.ByName := by
  rintro name other ⟨another, definition, found, holds⟩
  exact another (own _ (mem_entries_of_find? found) other holds)

end Declarations

/-- The first name is met at the start, and each other name is met in the definition of the name
before it. -/
structure Chain.Trail (starts : String → Prop) (meets : String → String → Prop)
    (chain : Chain) : Prop where
  head : ∀ name ∈ chain.head?, starts name
  links : chain.IsChain meets

namespace Chain

variable {starts : String → Prop} {meets : String → String → Prop} {chain : Chain} {name : String}

theorem Trail.enter (trail : chain.Trail starts meets) (first : chain = [] → starts name)
    (next : ∀ last ∈ chain.getLast?, meets last name) : (chain.enter name).Trail starts meets where
  head := by
    cases chain with
    | nil => simpa [Chain.enter] using first
    | cons other rest => simpa [Chain.enter] using trail.head
  links := by
    rw [Chain.enter, List.isChain_append]
    exact ⟨trail.links, List.isChain_singleton name, by simpa using next⟩

/-- The names after the first few are linked if the new name is linked to one of them. -/
theorem isChain_drop_enter {count : Nat} (links : (chain.drop count).IsChain meets)
    (next : count < chain.length → ∀ last ∈ chain.getLast?, meets last name) :
    ((chain.enter name).drop count).IsChain meets := by
  obtain short | room := Nat.lt_or_ge chain.length count
  · rw [List.drop_eq_nil_of_le (by rw [length_enter]; omega)]
    exact List.isChain_nil
  · rw [Chain.enter, List.drop_append_of_le_length room, List.isChain_append]
    refine ⟨links, List.isChain_singleton name, ?_⟩
    intro last found other same
    rw [List.getLast?_drop] at found
    split at found
    · cases found
    · cases same
      exact next (by omega) last found

/-- A refused name closes a cycle of distinct names, or the chain is as long as the limit. -/
theorem reason_of_refusal {config : Config} {reason : LoopReason} {names : List String}
    (refused : ¬config.Admits chain name) (distinct : config.detectCycles = true → chain.Nodup)
    (looped : (chain.refusal config name).cause = .loop reason names) :
    names = chain.enter name ∧
      (reason = .cyclic ∧ config.detectCycles = true ∧ chain.Nodup ∧ name ∈ chain ∨
        reason = .tooDeep config.aliasLimit ∧ config.aliasLimit ≤ chain.length ∧
          (config.detectCycles = true → names.Nodup)) := by
  by_cases cyclic : config.detectCycles = true ∧ name ∈ chain
  · simp only [refusal, if_pos cyclic, ExtractionError.ofCause, Cause.loop.injEq] at looped
    obtain ⟨rfl, rfl⟩ := looped
    exact ⟨rfl, Or.inl ⟨rfl, cyclic.1, distinct cyclic.1, cyclic.2⟩⟩
  · simp only [refusal, if_neg cyclic, ExtractionError.ofCause, Cause.loop.injEq] at looped
    obtain ⟨rfl, rfl⟩ := looped
    have full : config.aliasLimit ≤ chain.length := by
      by_contra room
      exact refused ⟨cyclic, Nat.lt_of_not_le room⟩
    exact ⟨rfl, Or.inr ⟨rfl, full, fun detects =>
      nodup_enter (distinct detects) fun visited => cyclic ⟨detects, visited⟩⟩⟩

end Chain

namespace Place

variable {config : Config} {declarations : Declarations} {start : TypeExpr} {place below : Place}

/-- A walk from the start came to the place. The last name of the chain, or the start where there
is none, leads to the node. The chain has outgrown the limit only by names of interfaces that were
met in place. -/
structure Traced (config : Config) (declarations : Declarations) (start : TypeExpr)
    (place : Place) : Prop extends Sound config declarations place where
  trail : place.chain.Trail start.Meets declarations.Meets
  outgrown : (place.chain.drop (config.aliasLimit - 1)).IsChain declarations.Holds
  first : place.chain = [] → start.Leads place.node
  last : ∀ name ∈ place.chain.getLast?, ∃ definition,
    declarations.find? name = some definition ∧ definition.unaliased.Leads place.node

namespace Traced

theorem here (covered : declarations.Covers start) :
    Traced config declarations start ⟨[], start⟩ where
  covered := covered
  kept := .nil
  trail := ⟨nofun, List.isChain_nil⟩
  outgrown := by
    rw [List.drop_nil]
    exact List.isChain_nil
  first _ := .here start
  last := nofun

variable {chain : Chain} {node other : TypeExpr} {name : String}

/-- The chain stays as it is on the way into a node. -/
theorem inside (traced : Traced config declarations start ⟨chain, node⟩)
    (leads : node.Leads other) :
    Traced config declarations start ⟨chain, other⟩ where
  covered _ leads' := traced.covered _ (leads.trans leads')
  kept := traced.kept
  trail := traced.trail
  outgrown := traced.outgrown
  first unnamed := (traced.first unnamed).trans leads
  last name final := by
    obtain ⟨definition, found, leads'⟩ := traced.last name final
    exact ⟨definition, found, leads'.trans leads⟩

/-- A reference goes on with the trail. -/
theorem refers (traced : Traced config declarations start ⟨chain, node⟩)
    (refers : node.Refers name) :
    (chain.enter name).Trail start.Meets declarations.Meets := by
  refine traced.trail.enter (fun unnamed => ?_) fun final last => ?_
  · exact Or.inl (refers.above (traced.first unnamed))
  · obtain ⟨definition, found, leads⟩ := traced.last final last
    exact Or.inl ⟨definition, found, refers.above leads⟩

/-- An interface in place of a node is linked to the last name, which is another one. -/
theorem holds (traced : Traced config declarations start ⟨chain, node⟩) (holds : node.Holds name)
    (fresh : name ∉ chain) : ∀ final ∈ chain.getLast?, declarations.Holds final name := by
  intro final last
  obtain ⟨definition, found, leads⟩ := traced.last final last
  refine ⟨?_, definition, found, holds.above leads⟩
  rintro rfl
  exact fresh (List.mem_of_getLast? last)

/-- The definition of the new last name leads to the node. -/
theorem onward {definition : TypeExpr}
    (sound : Sound config declarations ⟨chain.enter name, node⟩)
    (trail : (chain.enter name).Trail start.Meets declarations.Meets)
    (outgrown : ((chain.enter name).drop (config.aliasLimit - 1)).IsChain declarations.Holds)
    (found : declarations.find? name = some definition)
    (leads : definition.unaliased.Leads node) :
    Traced config declarations start ⟨chain.enter name, node⟩ where
  toSound := sound
  trail := trail
  outgrown := outgrown
  first unnamed := by simp [Chain.enter] at unnamed
  last final last := by
    simp only [Chain.enter, List.getLast?_concat, Option.mem_some_iff] at last
    subst last
    exact ⟨definition, found, leads⟩

variable (covers : ∀ {name definition}, declarations.find? name = some definition →
  declarations.Covers definition.unaliased)
include covers

/-- The chain has room for a name that is entered. -/
theorem enter {definition : TypeExpr} {arguments : List TypeExpr}
    (traced : Traced config declarations start ⟨chain, .reference name arguments⟩)
    (found : declarations.find? name = some definition) (admitted : config.Admits chain name) :
    Traced config declarations start ⟨chain.enter name, definition.unaliased⟩ := by
  have sound := traced.toSound.next covers (.enter arguments found admitted)
  have room := admitted.2
  refine onward sound (traced.refers ⟨arguments, .here _⟩) ?_ found (.here _)
  exact Chain.isChain_drop_enter traced.outgrown fun outgrown => by omega

/-- The heritage of an interface follows in its definition, which is the interface itself. -/
theorem mention {own : List Member} {heritage : List TypeExpr} {entry : TypeExpr}
    (traced : Traced config declarations start ⟨chain, .interfaceDecl name own heritage⟩)
    (member : entry ∈ heritage) :
    Traced config declarations start ⟨chain.mention name, entry⟩ := by
  have leads : (TypeExpr.interfaceDecl name own heritage).Leads entry := .heritage member (.here _)
  have sound := traced.toSound.next covers (.heritage chain name own member)
  unfold Chain.mention at sound ⊢
  by_cases visited : name = "" ∨ name ∈ chain
  · rw [if_pos visited]
    exact traced.inside leads
  · rw [if_neg visited] at sound ⊢
    have owned := traced.covered _ (.here _)
    have here : (TypeExpr.interfaceDecl name own heritage).Holds name := ⟨own, heritage, .here _⟩
    have held := traced.holds here fun member => visited (Or.inr member)
    refine onward sound (traced.trail.enter (fun unnamed => ?_) fun final last => ?_)
      (Chain.isChain_drop_enter traced.outgrown fun _ => held) owned leads
    · exact Or.inr (here.above (traced.first unnamed))
    · exact Or.inr (held final last)

/-- Every step keeps the trail. -/
theorem next (traced : Traced config declarations start place)
    (next : Next config declarations place below) :
    Traced config declarations start below := by
  cases next with
  | readonly chain first rest => exact traced.inside (.readonly (.here _))
  | payload chain dispatch payload rest => exact traced.inside (.handler dispatch (.here _))
  | part chain member => exact traced.inside (.part member (.here _))
  | heritage chain name own member => exact traced.mention covers member
  | enter arguments found admitted => exact traced.enter covers found admitted

end Traced
end Place

section ByName

variable {declarations : Declarations} {start : TypeExpr} {chain : Chain}

/-- A trail leads over references alone where interfaces are met by their names alone. -/
theorem Chain.Trail.references
    (trail : chain.Trail start.Meets declarations.Meets)
    (bare : ∀ name, ¬start.Holds name) (byName : declarations.ByName) :
    chain.Trail start.Refers declarations.Refers where
  head name first := (trail.head name first).resolve_right (bare name)
  links := trail.links.imp fun name other met => met.resolve_right (byName name other)

theorem Declarations.ByName.length_le (byName : declarations.ByName)
    (held : chain.IsChain declarations.Holds) : chain.length ≤ 1 := by
  match chain, held with
  | [], _ | [_], _ => simp
  | name :: other :: _, held =>
      exact (byName name other (List.isChain_cons_cons.mp held).1).elim

end ByName

namespace Payload

variable {config : Config} {declarations : Declarations}

/-- The chain of a loop is a trail of declared names from the start. It has outgrown the limit only
by names of interfaces that were met in place, and where there are none, it has one name more than
the limit if it is too deep and at most so many otherwise. -/
theorem resolve_trail
    (covers : ∀ {name definition}, declarations.find? name = some definition →
      declarations.Covers definition.unaliased)
    {dispatch : Option Dispatch} {legacy : Option String} {node : TypeExpr}
    (covered : declarations.Covers node) {error : ExtractionError} {reason : LoopReason}
    {names : List String}
    (failed : (resolve config declarations [] dispatch legacy node).run.value = .error error)
    (looped : error.cause = .loop reason names) :
    (∀ name ∈ names, name ∈ declarations.names) ∧
    Chain.Trail node.Meets declarations.Meets names ∧
    (∃ visited name, names = visited ++ [name] ∧
      (visited.drop (config.aliasLimit - 1)).IsChain declarations.Holds ∧
      (reason = .cyclic ∧ config.detectCycles = true ∧ visited.Nodup ∧ name ∈ visited ∨
        reason = .tooDeep config.aliasLimit ∧ config.aliasLimit ≤ visited.length ∧
          (config.detectCycles = true → names.Nodup))) ∧
    ((∀ name, ¬node.Holds name) → declarations.ByName →
      Chain.Trail node.Refers declarations.Refers names ∧ names.length ≤ config.aliasLimit + 1 ∧
        (reason = .tooDeep config.aliasLimit → names.length = config.aliasLimit + 1)) := by
  obtain refuses | ⟨obstacle, rfl⟩ := resolve_refuses failed
  · obtain ⟨visited, name, arguments, definition, traced, found, refused, rfl⟩ :=
      refuses.exists_of_kept (Place.Traced.here covered) (.next covers)
    obtain ⟨rfl, reasons⟩ := Chain.reason_of_refusal refused traced.kept.distinct looped
    have trail := traced.refers ⟨arguments, .here _⟩
    refine ⟨?_, trail, ⟨visited, name, rfl, traced.outgrown, reasons⟩, fun bare byName => ?_⟩
    · intro other member
      obtain member | rfl := Chain.mem_enter.mp member
      · obtain ⟨definition, found⟩ := traced.kept.declared other member
        exact Declarations.mem_names_of_find? found
      · exact Declarations.mem_names_of_find? found
    · have positive := config.positive
      have outgrown : (visited.drop (config.aliasLimit - 1)).IsChain declarations.Holds :=
        traced.outgrown
      have short := byName.length_le outgrown
      rw [List.length_drop] at short
      have room : (visited.enter name).length ≤ config.aliasLimit + 1 := by
        rw [Chain.length_enter]
        omega
      refine ⟨trail.references bare byName, room, fun tooDeep => ?_⟩
      obtain ⟨rfl, _⟩ | ⟨_, full, _⟩ := reasons
      · cases tooDeep
      · rw [Chain.length_enter] at room ⊢
        omega
  · cases looped

/-- An alias stands directly for an interface, which is declared as well. -/
def inlined : Declarations where
  entries := [
    ("Press", .aliasDecl "Press" (.interfaceDecl "Touch" [] [.reference "Base" []])),
    ("Touch", .interfaceDecl "Touch" [] [.reference "Base" []]),
    ("Base", .object [])]

/-- The name of the interface stands in the chain although nothing refers to it, and the chain is
longer than the limit and one. -/
theorem resolve_inlined :
    (∀ {name definition}, inlined.find? name = some definition →
      inlined.Covers definition.unaliased) ∧
    (∀ name, ¬(TypeExpr.reference "Press" []).Holds name) ∧
    (resolve ⟨1, true, true, by decide⟩ inlined [] none none (.reference "Press" [])).run.value =
      .error (.ofCause (.loop (.tooDeep 1) ["Press", "Touch", "Base"])) ∧
    ¬["Press", "Touch", "Base"].length ≤ 1 + 1 ∧
    ¬inlined.Refers "Press" "Touch" := by
  refine ⟨fun found => ?_, ?_, ?_, by decide, ?_⟩
  · have touch : inlined.find? "Touch" =
        some (.interfaceDecl "Touch" [] [.reference "Base" []]) := rfl
    have entry := Declarations.mem_entries_of_find? found
    simp only [inlined, List.mem_cons, Prod.mk.injEq, List.not_mem_nil, or_false] at entry
    obtain ⟨_, rfl⟩ | ⟨_, rfl⟩ | ⟨_, rfl⟩ := entry <;>
      simp [TypeExpr.unaliased, Declarations.Covers, Declarations.Owns, touch]
  · simp [TypeExpr.Holds]
  · have press : Config.Admits ⟨1, true, true, by decide⟩ [] "Press" := by decide
    have base : ¬Config.Admits ⟨1, true, true, by decide⟩ ["Press", "Touch"] "Base" := by decide
    have found : inlined.find? "Base" = some (.object []) := rfl
    have heritage := Heritage.members_refused [] (by decide) found base
    have mentioned : Chain.mention (Chain.enter [] "Press") "Touch" = ["Press", "Touch"] := rfl
    rw [resolve_admitted none none [] (by decide) rfl rfl press]
    simp only [TypeExpr.unaliased]
    rw [resolve_interfaceDecl, Heritage.members_interfaceDecl, mentioned,
      Heritage.members_failedPart [] heritage]
    rfl
  · rintro ⟨definition, found, arguments, leads⟩
    cases found
    simp [TypeExpr.unaliased] at leads

/-- One chain closes a cycle, and the other one is too long. -/
theorem resolve_trail_selfInheriting :
    (∀ {name definition}, selfInheriting.find? name = some definition →
      selfInheriting.Covers definition.unaliased) ∧
    selfInheriting.Covers selfInheritingHandler ∧
    (∀ name, ¬selfInheritingHandler.Holds name) ∧ selfInheriting.ByName ∧
    (Chain.Trail selfInheritingHandler.Refers selfInheriting.Refers ["Event", "Base", "Event"] ∧
      ∃ visited name, ["Event", "Base", "Event"] = visited ++ [name] ∧
        visited.Nodup ∧ name ∈ visited) ∧
    Chain.Trail selfInheritingHandler.Refers selfInheriting.Refers ["Event", "Base", "Payload"] ∧
      ["Event", "Base", "Payload"].length = 2 + 1 := by
  have handler : Dispatch.direct.wrapperName = TypeExpr.readonlyName ∨
      ∃ dispatch : Dispatch, Dispatch.direct.wrapperName = dispatch.wrapperName :=
    Or.inr ⟨.direct, rfl⟩
  have readonly : TypeExpr.readonlyName = TypeExpr.readonlyName ∨
      ∃ dispatch : Dispatch, TypeExpr.readonlyName = dispatch.wrapperName := Or.inl rfl
  have bare : ∀ name, ¬selfInheritingHandler.Holds name := by
    simp [selfInheritingHandler, TypeExpr.Holds, TypeExpr.leads_wrapper_iff handler]
  have byName : selfInheriting.ByName := by
    apply Declarations.ByName.of_entries
    simp [selfInheriting, TypeExpr.unaliased, TypeExpr.Holds, TypeExpr.leads_wrapper_iff readonly]
    exact fun _ _ _ same _ _ => same
  have covers : ∀ {name definition}, selfInheriting.find? name = some definition →
      selfInheriting.Covers definition.unaliased := closed_selfInheriting.covers
  have covered := covers_selfInheritingHandler
  have cyclic := resolve_trail covers covered
    (resolve_selfInheritingHandler_cyclic ⟨3, true, true, by decide⟩ rfl (by decide)) rfl
  have tooDeep := resolve_trail covers covered
    (resolve_selfInheritingHandler_tooDeep ⟨2, true, true, by decide⟩ rfl) rfl
  obtain ⟨_, _, ⟨visited, name, names, _, reasons⟩, cyclicByName⟩ := cyclic
  obtain ⟨_, _, distinct, visits⟩ | ⟨⟨⟩, _⟩ := reasons
  obtain ⟨_, _, _, tooDeepByName⟩ := tooDeep
  refine ⟨covers, covered, bare, byName, ⟨(cyclicByName bare byName).1, ?_⟩,
    (tooDeepByName bare byName).1, (tooDeepByName bare byName).2.2 rfl⟩
  exact ⟨visited, name, names, distinct, visits⟩

end Payload
end ComponentEvents
