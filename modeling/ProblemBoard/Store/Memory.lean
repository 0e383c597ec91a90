import ProblemBoard.Atlas
import ProblemBoard.Store

/-! # The store in memory

Everything is kept as it is, in order of its identifiers. Problems are numbered from one, and a
number is never given twice.
-/

namespace ProblemBoard

structure Memory where
  maps : MapTable
  triggers : Std.ExtTreeMap TriggerId Trigger
  problems : Std.ExtTreeMap Int Problem
  /-- The number that the next problem will get. -/
  nextProblem : Nat
  /-- The configuration, once one has been set. -/
  config : Option SeverityConfig
  profile : Profile
  deriving DecidableEq

namespace Memory

def empty : Memory := ⟨∅, ∅, ∅, 1, none, ∅⟩

/-- The stored maps among those asked for, in ascending order. -/
def mapsOf (store : Memory) (ids : IdSet .map) : List NetworkMap :=
  ids.toList.filterMap (store.maps[·]?)

/-- The triggers that a query wants, in ascending order. -/
def triggersOf (store : Memory) (query : TriggerQuery) : List Trigger :=
  store.triggers.values.filter query.wants

/-- The problems that a query wants, in the order of their numbers. -/
def problemsOf (store : Memory) (query : ProblemQuery) : List Problem :=
  store.problems.values.filter query.wants

/-- Keep a map, without the maps nested in it: those depend on other maps. -/
def insertMap (store : Memory) (map : NetworkMap) : Except StoreFault Memory := do
  map.validate.mapError .invalidModel
  pure { store with maps := store.maps.insert map.id { map with submaps := ∅ } }

def map (store : Memory) (id : MapId) : Except StoreFault NetworkMap :=
  (store.maps[id]?).elim (throw (.mapNotFound id)) pure

def deleteMap (store : Memory) (id : MapId) : Except StoreFault Memory :=
  if store.maps.contains id then pure { store with maps := store.maps.erase id }
  else throw (.mapNotFound id)

def insertTrigger (store : Memory) (trigger : Trigger) : Memory :=
  { store with triggers := store.triggers.insert trigger.id trigger }

def trigger (store : Memory) (id : TriggerId) : Except StoreFault Trigger :=
  (store.triggers[id]?).elim (throw (.triggerNotFound id)) pure

/-- Open a problem on a stored trigger. -/
def insertProblem (store : Memory) (problem : Problem) : Except StoreFault (Memory × Int) :=
  if store.triggers.contains problem.trigger then
    pure ({ store with
      problems := store.problems.insert store.nextProblem problem
      nextProblem := store.nextProblem + 1 }, store.nextProblem)
  else throw (.triggerNotFound problem.trigger)

def acknowledge (store : Memory) (id : Int) : Except StoreFault Memory :=
  match store.problems[id]? with
  | some problem =>
      pure { store with problems := store.problems.insert id { problem with acknowledged := true } }
  | none => throw (.problemNotFound id)

def resolve (store : Memory) (id : Int) : Except StoreFault Memory :=
  if store.problems.contains id then pure { store with problems := store.problems.erase id }
  else throw (.problemNotFound id)

instance : Store Memory where
  empty := empty
  get? store := store.profile.get?
  set store user widget name value :=
    { store with profile := store.profile.set user widget name value }
  delete store user widget name := { store with profile := store.profile.delete user widget name }
  find store := store.profile.find
  feeds store :=
    { maps := fun ids => pure (store.mapsOf ids)
      triggers := fun query => pure (store.triggersOf query)
      problems := fun query => pure (store.problemsOf query) }
  insertMap := insertMap
  map := map
  deleteMap := deleteMap
  mapIds store := pure store.maps.keys
  insertTrigger store trigger := pure (store.insertTrigger trigger)
  trigger := trigger
  insertProblem := insertProblem
  acknowledge := acknowledge
  resolve := resolve
  severityConfig store := pure (store.config.getD .default)
  setSeverityConfig store config := pure { store with config := some config }
  profile := profile
  setProfile store profile := { store with profile := profile }

end Memory

end ProblemBoard
