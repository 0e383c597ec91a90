import Mathlib.Order.Bounds.Defs
import ProblemBoard.Proofs.Discovery
import ProblemBoard.Proofs.Repair
import ProblemBoard.Query

/-! # What the counts of a board mean

A world is what lies behind the feeds: some maps, trigger records and problems. This module says what
a board should count there, without any of the board's own steps. The maps that a tree leads to,
whatever the permissions, set the least severity that matters. Records and problems below it do not
exist for the board, and a trigger has live problems only if one of its records is admitted. An item
counts a trigger when a map in its scope shows the trigger through something readable, and lets its
gravest live problem through.
-/

namespace ProblemBoard

open Navigation Relation

namespace Severity

instance : Std.IsLinearOrder Severity where
  le_refl _ := Nat.le_refl _
  le_trans _ _ _ := Nat.le_trans
  le_antisymm _ _ below above := level_inj.mp (Nat.le_antisymm below above)
  le_total _ _ := Nat.le_total _ _

instance : Std.LawfulOrderMin Severity where
  min_eq_or left right := by
    change (if left ≤ right then left else right) = left ∨ (if left ≤ right then left else right) = right
    split
    · exact .inl rfl
    · exact .inr rfl
  le_min_iff bound left right := by
    change bound ≤ (if left ≤ right then left else right) ↔ _
    simp only [le_def]
    split <;> omega

instance : Std.LawfulOrderMax Severity where
  max_eq_or left right := by
    change (if left ≤ right then right else left) = left ∨ (if left ≤ right then right else left) = right
    split
    · exact .inr rfl
    · exact .inl rfl
  max_le_iff left right bound := by
    change (if left ≤ right then right else left) ≤ bound ↔ _
    simp only [le_def]
    split <;> omega

end Severity

/-- What lies behind the feeds of a board. Identifiers tell the maps apart, but a trigger may have
several records. -/
structure World where
  maps : List NetworkMap
  triggers : List Trigger
  problems : List Problem
  distinct : (maps.map NetworkMap.id).Nodup

namespace World

variable (world : World)

/-- The feeds answer from the world: every query with the records that it wants, in whatever order and
however often. -/
structure AnsweredBy (feeds : Feeds (Except FeedFault)) : Prop where
  maps : AnswersFrom world.maps feeds.maps
  triggers : ∀ query, ∃ answer, feeds.triggers query = .ok answer ∧
    ∀ trigger, trigger ∈ answer ↔ trigger ∈ world.triggers ∧ query.wants trigger = true
  problems : ∀ query, ∃ answer, feeds.problems query = .ok answer ∧
    ∀ problem, problem ∈ answer ↔ problem ∈ world.problems ∧ query.wants problem = true

/-- The feeds that answer with what is wanted in the order of the world. -/
def feeds : Feeds (Except FeedFault) where
  maps := answering world.maps
  triggers query := .ok (world.triggers.filter query.wants)
  problems query := .ok (world.problems.filter query.wants)

theorem answeredBy_feeds : world.AnsweredBy world.feeds where
  maps := answersFrom_answering world.maps
  triggers _ := ⟨_, rfl, fun _ => List.mem_filter⟩
  problems _ := ⟨_, rfl, fun _ => List.mem_filter⟩

/-- The map exists, and some item of the tree leads to it through elements of any permission. -/
def Known (tree : Tree) (map : NetworkMap) : Prop :=
  map ∈ world.maps ∧
    Reached (Embeds world.maps) {id | id ≠ .zero ∧ ∃ item ∈ tree.items, item.linked = id} map.id

/-- The lowest severity that a known map counts. -/
def LeastFloor (tree : Tree) (least : Severity) : Prop :=
  IsLeast {floor | ∃ map, world.Known tree map ∧ map.severityFloor = floor} least ∨
    (∀ map, ¬ world.Known tree map) ∧ least = .notClassified

variable (least : Severity)

/-- The record is grave enough and not suppressed. -/
def Admits (record : Trigger) : Prop :=
  record ∈ world.triggers ∧ least ≤ record.severity ∧ record.suppressed = false

/-- One of the trigger's records is admitted. -/
def Eligible (trigger : TriggerId) : Prop := ∃ record, world.Admits least record ∧ record.id = trigger

/-- The problem is one of an eligible trigger, and grave enough. -/
def Live (trigger : TriggerId) (problem : Problem) : Prop :=
  world.Eligible least trigger ∧ problem ∈ world.problems ∧ problem.trigger = trigger ∧
    least ≤ problem.severity

/-- The gravest severity among the live problems of a trigger. -/
def Gravest (trigger : TriggerId) (severity : Severity) : Prop :=
  IsGreatest {level | ∃ problem, world.Live least trigger problem ∧ problem.severity = level} severity

/-- Some live problem of the trigger has not been acknowledged. -/
def Unacknowledged (trigger : TriggerId) : Prop :=
  ∃ problem, world.Live least trigger problem ∧ problem.acknowledged = false

/-- What a target stands for: a group or a host for the triggers with an admitted record there, and
triggers for themselves. -/
def StandsFor : Target → TriggerId → Prop
  | .group id, trigger => ∃ record, world.Admits least record ∧ record.id = trigger ∧ id ∈ record.groups
  | .host id, trigger => ∃ record, world.Admits least record ∧ record.id = trigger ∧ id ∈ record.hosts
  | .triggers ids, trigger => trigger ∈ ids
  | .map _, _ => False

/-- A readable element or link of the map stands for the trigger. -/
def Shows (map : NetworkMap) (trigger : TriggerId) : Prop :=
  (∃ element ∈ map.elements, element.permission.isReadable = true ∧
    world.StandsFor least element.target trigger) ∨
  ∃ link ∈ map.links, link.permission.isReadable = true ∧ trigger ∈ link.triggers

/-- The map shows the trigger, and its display rules let the gravest live problem through. -/
def Counts (map : NetworkMap) (trigger : TriggerId) (severity : Severity) : Prop :=
  world.Shows least map trigger ∧ world.Gravest least trigger severity ∧ map.severityFloor ≤ severity ∧
    (map.unacknowledgedOnly = true → world.Unacknowledged least trigger)

/-- The map exists, and readable embeddings lead to it from a map linked to the item or to an item
below it. -/
def InScope (tree : Tree) (item : Item) (map : NetworkMap) : Prop :=
  map ∈ world.maps ∧ ∃ root, root ≠ .zero ∧
    (item.linked = root ∨
      ∃ lower ∈ tree.items, lower.linked = root ∧ TransGen tree.ParentStep lower.id item.id) ∧
    ReflTransGen (EmbedsReadably world.maps) root map.id

end World

end ProblemBoard
