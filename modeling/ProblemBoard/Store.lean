import ProblemBoard.Fault
import ProblemBoard.Profile
import ProblemBoard.Query
import ProblemBoard.Severity.Style

/-! # Stores

A store keeps maps, triggers, open problems, the severity configuration and the users' profiles, and
answers the board's feeds. Two kinds of store are provided: one in memory, and one on the tables of a
database. A write gives the changed store or a fault, so a write that fails changes nothing.
-/

namespace ProblemBoard

/-- What every store can do. Problems are known by the numbers that the store gives them. -/
class Store (σ : Type) extends ProfileStore σ where
  empty : σ
  feeds (store : σ) : Feeds (Except FeedFault)
  insertMap (store : σ) (map : NetworkMap) : Except StoreFault σ
  map (store : σ) (id : MapId) : Except StoreFault NetworkMap
  deleteMap (store : σ) (id : MapId) : Except StoreFault σ
  /-- The identifiers of all maps, in ascending order. -/
  mapIds (store : σ) : Except StoreFault (List MapId)
  insertTrigger (store : σ) (trigger : Trigger) : Except StoreFault σ
  trigger (store : σ) (id : TriggerId) : Except StoreFault Trigger
  insertProblem (store : σ) (problem : Problem) : Except StoreFault (σ × Int)
  acknowledge (store : σ) (problem : Int) : Except StoreFault σ
  /-- Close a problem, which then counts nowhere. -/
  resolve (store : σ) (problem : Int) : Except StoreFault σ
  severityConfig (store : σ) : Except StoreFault SeverityConfig
  setSeverityConfig (store : σ) (config : SeverityConfig) : Except StoreFault σ
  /-- All entries of the users' profiles at once. -/
  profile (store : σ) : Profile
  /-- Put other entries in place of all that are there. -/
  setProfile (store : σ) (profile : Profile) : σ

/-- Make sure that a map is fit to be stored. -/
def NetworkMap.validate (map : NetworkMap) : Except ModelFault Unit :=
  match map.fault? with
  | some fault => .error (.invalidElement map.id fault)
  | none => .ok ()

theorem NetworkMap.validate_eq_ok_iff {map : NetworkMap} :
    map.validate = .ok () ↔ map.fault? = none := by
  unfold NetworkMap.validate
  split <;> simp [*]

end ProblemBoard
