import ProblemBoard.Store.Connection
import ProblemBoard.Store.Memory
import ProblemBoard.Widget.View

/-! # Histories of stores

A history is a list of calls that are made to a store one after the other. Questions leave the store as
it is; a change gives the changed store or is refused, and a refused change leaves the store as it is as
well. How a snapshot is taken in depends on the store: a store in memory loads it, a database imports it.
-/

namespace ProblemBoard

/-- A call that only reads. -/
inductive Question where
  | map (id : MapId)
  | mapIds
  | maps (ids : IdSet .map)
  | trigger (id : TriggerId)
  | triggers (query : TriggerQuery)
  | problems (query : ProblemQuery)
  | severityConfig
  | check (snapshot : Snapshot)
  | entry (user widget : Int) (name : String)
  | entryNames (user widget : Int) (front back : String)
  | opened (user widget : Int)
  | selected (user widget : Int)
  | view (user : Int) (request : Widget.Request)

/-- A call that writes. -/
inductive Change where
  | insertMap (map : NetworkMap)
  | deleteMap (id : MapId)
  | insertTrigger (trigger : Trigger)
  | insertProblem (problem : Problem)
  | acknowledge (problem : Int)
  | resolve (problem : Int)
  | setSeverityConfig (config : SeverityConfig)
  | setEntry (user widget : Int) (name value : String)
  | deleteEntry (user widget : Int) (name : String)
  | setOpened (user widget : Int) (item : ItemId) (isOpen : Bool)
  | setSelected (user widget : Int) (item : ItemId)

/-- A call to a store. -/
inductive Operation where
  | ask (question : Question)
  | change (change : Change)
  | take (snapshot : Snapshot)

/-- What a call gives back. -/
inductive Answer where
  | done
  | map (map : NetworkMap)
  | mapIds (ids : List MapId)
  | maps (maps : List NetworkMap)
  | trigger (trigger : Trigger)
  | triggers (triggers : List Trigger)
  | problem (number : Int)
  | problems (problems : List Problem)
  | severityConfig (config : SeverityConfig)
  | entry (text : Option String)
  | entryNames (names : List String)
  | items (items : List ItemId)
  | item (item : ItemId)
  | summary (summary : LoadSummary)
  | view (response : Widget.Response)
  deriving DecidableEq

/-- Why a call fails. -/
inductive Refusal where
  | store (fault : StoreFault)
  | feed (fault : FeedFault)
  | view (fault : ViewFault)
  deriving DecidableEq

abbrev Outcome := Except Refusal Answer

section Calls

variable {σ : Type} [Store σ]

def Question.answer (question : Question) (store : σ) : Outcome :=
  match question with
  | .map id => ((Store.map store id).map .map).mapError .store
  | .mapIds => ((Store.mapIds store).map .mapIds).mapError .store
  | .maps ids => (((Store.feeds store).maps ids).map .maps).mapError .feed
  | .trigger id => ((Store.trigger store id).map .trigger).mapError .store
  | .triggers query => (((Store.feeds store).triggers query).map .triggers).mapError .feed
  | .problems query => (((Store.feeds store).problems query).map .problems).mapError .feed
  | .severityConfig => ((Store.severityConfig store).map .severityConfig).mapError .store
  | .check snapshot => ((snapshot.check store).map fun _ => .done).mapError .store
  | .entry user widget name => .ok (.entry (ProfileStore.get? store user widget name))
  | .entryNames user widget front back => .ok (.entryNames (ProfileStore.find store user widget front back))
  | .opened user widget => .ok (.items (ProfileStore.opened store user widget))
  | .selected user widget => .ok (.item (ProfileStore.selected store user widget))
  | .view user request => ((Widget.view store user request).map .view).mapError .view

/-- The answer to a change, and the changed store. -/
def Change.apply (change : Change) (store : σ) : Except StoreFault (Answer × σ) :=
  match change with
  | .insertMap map => (Store.insertMap store map).map (.done, ·)
  | .deleteMap id => (Store.deleteMap store id).map (.done, ·)
  | .insertTrigger trigger => (Store.insertTrigger store trigger).map (.done, ·)
  | .insertProblem problem =>
      (Store.insertProblem store problem).map fun (changed, number) => (.problem number, changed)
  | .acknowledge problem => (Store.acknowledge store problem).map (.done, ·)
  | .resolve problem => (Store.resolve store problem).map (.done, ·)
  | .setSeverityConfig config => (Store.setSeverityConfig store config).map (.done, ·)
  | .setEntry user widget name value => .ok (.done, ProfileStore.set store user widget name value)
  | .deleteEntry user widget name => .ok (.done, ProfileStore.delete store user widget name)
  | .setOpened user widget item isOpen => .ok (.done, ProfileStore.setOpened store user widget item isOpen)
  | .setSelected user widget item => .ok (.done, ProfileStore.setSelected store user widget item)

variable (load : Snapshot → σ → Except StoreFault LoadSummary × σ)

/-- The outcome of a call, and the store after it. -/
def Operation.perform (operation : Operation) (store : σ) : Outcome × σ :=
  match operation with
  | .ask question => (question.answer store, store)
  | .change edit =>
      match edit.apply store with
      | .ok (answer, changed) => (.ok answer, changed)
      | .error fault => (.error (.store fault), store)
  | .take snapshot =>
      let (result, after) := load snapshot store
      ((result.map .summary).mapError .store, after)

/-- The outcomes of calls made one after the other, and the store after them. -/
def performAll : List Operation → σ → List Outcome × σ
  | [], store => ([], store)
  | operation :: rest, store =>
      let (outcome, after) := operation.perform load store
      let (outcomes, last) := performAll rest after
      (outcome :: outcomes, last)

end Calls

end ProblemBoard
