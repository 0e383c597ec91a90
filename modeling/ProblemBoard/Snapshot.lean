import ProblemBoard.Query.Json
import ProblemBoard.Store.Database

/-! # Snapshots

A snapshot holds maps, triggers and open problems, and possibly a severity configuration, to be
loaded into a store. Nothing is written unless the snapshot passes its check: every map is fit to be
stored, and every problem has its trigger, in the snapshot or in the store.

Loading writes one thing after the other, so a store that refuses one of them keeps those before it.
-/

namespace ProblemBoard

structure Snapshot where
  maps : List NetworkMap
  triggers : List Trigger
  problems : List Problem
  config : Option SeverityConfig
  deriving DecidableEq

/-- How much was loaded. -/
structure LoadSummary where
  maps : Nat
  triggers : Nat
  problems : Nat
  deriving DecidableEq, Repr

def LoadSummary.toJson (summary : LoadSummary) : Json :=
  .object [("maps", .nat summary.maps), ("triggers", .nat summary.triggers),
    ("problems", .nat summary.problems)]

namespace Snapshot

def fields : Fields Snapshot :=
  Snapshot.mk <$> .optional "maps" (.list NetworkMap.decoder) [] <*>
    .optional "triggers" (.list Trigger.decoder) [] <*>
    .optional "problems" (.list Problem.decoder) [] <*>
    .optional "severity_config" (.nullable SeverityConfig.decoder) none

/-- The snapshot that a text holds. -/
def ofText (text : String) : Except ReadFault Snapshot := fields.decoder.run text

/-- The configuration is written only if there is one. -/
def toJson (snapshot : Snapshot) : Json :=
  .object ([("maps", .array (snapshot.maps.map NetworkMap.toJson)),
    ("triggers", .array (snapshot.triggers.map Trigger.toJson)),
    ("problems", .array (snapshot.problems.map Problem.toJson))] ++
    match snapshot.config with
    | some config => [("severity_config", config.toJson)]
    | none => [])

def summary (snapshot : Snapshot) : LoadSummary :=
  ⟨snapshot.maps.length, snapshot.triggers.length, snapshot.problems.length⟩

variable {σ : Type} [Store σ]

/-- Make sure that a store can take a snapshot. The first map that is not fit is reported, or else
the first problem whose trigger is nowhere. -/
def check (snapshot : Snapshot) (store : σ) : Except StoreFault Unit := do
  snapshot.maps.forM fun map => map.validate.mapError .invalidModel
  let own : IdSet .trigger := .ofList (snapshot.triggers.map Trigger.id)
  snapshot.problems.forM fun problem =>
    if own.contains problem.trigger then pure ()
    else (Store.trigger store problem.trigger).map fun _ => ()

/-- Write the elements of a list one after the other, up to the first that is refused. -/
def writeAll {α : Type} (write : σ → α → Except StoreFault σ) :
    List α → σ → Except StoreFault Unit × σ
  | [], store => (.ok (), store)
  | value :: rest, store =>
      match write store value with
      | .ok changed => writeAll write rest changed
      | .error fault => (.error fault, store)

/-- What is to be written for a snapshot, in order. -/
def writes (snapshot : Snapshot) : List (σ → Except StoreFault σ) :=
  snapshot.maps.map (fun map store => Store.insertMap store map) ++
    snapshot.triggers.map (fun trigger store => Store.insertTrigger store trigger) ++
    snapshot.problems.map (fun problem store => (Store.insertProblem store problem).map Prod.fst) ++
    snapshot.config.toList.map fun config store => Store.setSeverityConfig store config

/-- Load a snapshot into a store. The result also holds the store as it is afterwards, even if some
write was refused. -/
def load (snapshot : Snapshot) (store : σ) : Except StoreFault LoadSummary × σ :=
  match snapshot.check store with
  | .error fault => (.error fault, store)
  | .ok () =>
      let (result, store) := writeAll (fun store write => write store) snapshot.writes store
      (result.map fun _ => snapshot.summary, store)

end Snapshot

end ProblemBoard
