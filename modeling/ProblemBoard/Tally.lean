import ProblemBoard.Ledger
import ProblemBoard.Navigation
import ProblemBoard.Severity.Bucket
import ProblemBoard.Severity.Style

/-! # Counting problems for the navigation tree

Every navigation item gets one bucket. It counts the triggers with a visible problem on the maps in
the item's scope: a trigger adds one to the slot of its gravest open problem, however many problems
it has and however many maps show it. Whether a problem is visible depends on the map, so a trigger
that one map leaves out may still be counted on another.
-/

namespace ProblemBoard

open Navigation

/-- The triggers that a map shows through readable elements and links. -/
def NetworkMap.shown (map : NetworkMap) (ledger : Ledger) : List TriggerId :=
  map.readableElements.flatMap (fun element => ledger.behind element.target) ++
    map.readableLinks.flatMap Link.triggers

/-- The triggers counted so far, with their severities. -/
abbrev Counted := Std.ExtTreeMap TriggerId Severity

namespace Counted

/-- Count a trigger that one map shows, unless it is counted already or not visible there. -/
def observe (counted : Counted) (map : NetworkMap) (ledger : Ledger) (trigger : TriggerId) : Counted :=
  if counted.contains trigger then counted
  else
    match (ledger.standing trigger).visibleSeverity map.severityFloor map.unacknowledgedOnly with
    | some severity => counted.insert trigger severity
    | none => counted

end Counted

namespace Tally

/-- The triggers counted on a set of maps. -/
def counted (scope : IdSet .map) (atlas : Atlas) (ledger : Ledger) : Counted :=
  (scope.toList.filterMap (atlas.maps[·]?)).foldl
    (fun counted map => (map.shown ledger).foldl (·.observe map ledger ·) counted) ∅

/-- The bucket of a set of maps. -/
def ofScope (scope : IdSet .map) (atlas : Atlas) (ledger : Ledger) : Bucket :=
  .ofList (counted scope atlas ledger).values

/-- The bucket of one navigation item. -/
def ofItem (atlas : Atlas) (ledger : Ledger) (item : Item) : Bucket :=
  ofScope (atlas.expandScope item.scopeRoots) atlas ledger

/-- One bucket for each item of a tree. -/
def ofTree (tree : Tree) (atlas : Atlas) (ledger : Ledger) : Std.ExtTreeMap ItemId Bucket :=
  tree.items.foldl (fun buckets item => buckets.insert item.id (ofItem atlas ledger item)) ∅

end Tally

/-- The problem counts of a navigation tree. -/
structure Tally where
  buckets : Std.ExtTreeMap ItemId Bucket
  /-- The maps linked from the tree that exist and are visible, in ascending order. -/
  accessible : List MapId
  deriving DecidableEq

/-- Count the problems of a navigation tree: discover the maps, gather triggers and problems, and
count. -/
def countProblems {m : Type → Type} [Monad m] (feeds : Feeds m) (tree : Tree) : m Tally := do
  let atlas ← Atlas.discover feeds.maps tree.referencedMaps
  let ledger ← Ledger.gather feeds (.ofMaps atlas.maps.values)
  pure ⟨Tally.ofTree tree atlas ledger, atlas.accessible⟩

end ProblemBoard
