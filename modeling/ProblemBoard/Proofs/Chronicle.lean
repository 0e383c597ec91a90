import ProblemBoard.Proofs.Loading

/-! # What a store in memory holds is what its history says

The calls that a store has gone through leave a chronicle: what each call did, in order, and nothing for a
call that failed. The chronicle alone says what the store must hold. A map is there as it was inserted last,
unless it has been deleted since; a trigger is there as it was inserted last; and the problems that have
been opened are numbered in that order, each of them open until it is resolved. A store that starts empty
holds just that after any calls, so nothing is lost, nothing appears twice and nothing comes back.
-/

namespace ProblemBoard

/-- Something that was done to a store. -/
inductive Deed where
  | mapInserted (map : NetworkMap)
  | mapDeleted (id : MapId)
  | triggerInserted (trigger : Trigger)
  | problemOpened (problem : Problem)
  | problemAcknowledged (number : Int)
  | problemResolved (number : Int)
  deriving DecidableEq

namespace Deed

/-- Whether the deed inserts or deletes the map. -/
def concernsMap (id : MapId) : Deed → Bool
  | mapInserted map => map.id = id
  | mapDeleted other => other = id
  | _ => false

/-- The map that the deed leaves behind: stored maps do not know what is nested in them. -/
def map? : Deed → Option NetworkMap
  | mapInserted map => some { map with submaps := ∅ }
  | _ => none

def concernsTrigger (id : TriggerId) : Deed → Bool
  | triggerInserted trigger => trigger.id = id
  | _ => false

def trigger? : Deed → Option Trigger
  | triggerInserted trigger => some trigger
  | _ => none

def opened? : Deed → Option Problem
  | problemOpened problem => some problem
  | _ => none

end Deed

/-- What has been done to a store, in order. -/
abbrev Chronicle := List Deed

namespace Chronicle

/-- The last deed of some kind. -/
def last (history : Chronicle) (kind : Deed → Bool) : Option Deed := (history.filter kind).getLast?

/-- The map as it was inserted last, unless it has been deleted since. -/
def map? (history : Chronicle) (id : MapId) : Option NetworkMap :=
  (history.last (·.concernsMap id)).bind Deed.map?

/-- The trigger as it was inserted last. -/
def trigger? (history : Chronicle) (id : TriggerId) : Option Trigger :=
  (history.last (·.concernsTrigger id)).bind Deed.trigger?

/-- The problems in the order in which they were opened, whatever has become of them. -/
def opened (history : Chronicle) : List Problem := history.filterMap Deed.opened?

/-- What has become of the problem with a number: it is open until it has been resolved, and acknowledged
if it was so from the start or has been acknowledged since. -/
def standing? (history : Chronicle) (number : Int) (problem : Problem) : Option Problem :=
  if .problemResolved number ∈ history then none
  else some { problem with
    acknowledged := problem.acknowledged || decide (.problemAcknowledged number ∈ history) }

/-- The open problems with their numbers, which count from one in the order of opening. -/
def problems (history : Chronicle) : List (Int × Problem) :=
  (history.opened.zipIdx 1).filterMap fun (problem, number) =>
    (history.standing? number problem).map ((number : Int), ·)

end Chronicle

/-- What a change does when it succeeds. The configuration and the profiles are no part of the chronicle. -/
def Change.deeds : Change → Chronicle
  | insertMap map => [.mapInserted map]
  | deleteMap id => [.mapDeleted id]
  | insertTrigger trigger => [.triggerInserted trigger]
  | insertProblem problem => [.problemOpened problem]
  | acknowledge number => [.problemAcknowledged number]
  | resolve number => [.problemResolved number]
  | setSeverityConfig _ | setEntry .. | deleteEntry .. | setOpened .. | setSelected .. => []

/-- What taking in a snapshot does. -/
def Snapshot.deeds (snapshot : Snapshot) : Chronicle :=
  snapshot.maps.map .mapInserted ++ snapshot.triggers.map .triggerInserted ++
    snapshot.problems.map .problemOpened

/-- What a call did, given its outcome. -/
def Operation.deeds : Operation → Outcome → Chronicle
  | .change edit, .ok _ => edit.deeds
  | .take snapshot, .ok _ => snapshot.deeds
  | _, _ => []

/-- Everything that some calls did, given their outcomes. -/
def chronicle (operations : List Operation) (outcomes : List Outcome) : Chronicle :=
  (operations.zip outcomes).flatMap fun (operation, outcome) => operation.deeds outcome

namespace Chronicle

variable {history : Chronicle} {deed : Deed}

theorem last_concat (kind : Deed → Bool) :
    (history ++ [deed]).last kind = if kind deed then some deed else history.last kind := by
  cases here : kind deed <;> simp [last, here]

theorem map?_concat (id : MapId) : (history ++ [deed]).map? id =
    if deed.concernsMap id then deed.map? else history.map? id := by
  rw [map?, last_concat]
  split <;> rfl

theorem trigger?_concat (id : TriggerId) : (history ++ [deed]).trigger? id =
    if deed.concernsTrigger id then deed.trigger? else history.trigger? id := by
  rw [trigger?, last_concat]
  split <;> rfl

theorem opened_concat : (history ++ [deed]).opened = history.opened ++ deed.opened?.toList := by
  cases opening : deed.opened? <;> simp [opened, opening]

theorem trigger_of_standing? {number : Int} {problem after : Problem}
    (standing : history.standing? number problem = some after) : problem.trigger = after.trigger := by
  rw [standing?] at standing
  split at standing
  · cases standing
  · obtain rfl := Option.some.inj standing
    rfl

theorem mem_problems {number : Int} {problem : Problem} : (number, problem) ∈ history.problems ↔
    ∃ place original, history.opened[place]? = some original ∧ number = (place + 1 : Nat) ∧
      history.standing? number original = some problem := by
  simp only [problems, List.mem_filterMap, Prod.exists, List.mem_zipIdx_iff_le_and_getElem?_sub,
    Option.map_eq_some_iff, Prod.mk.injEq]
  constructor
  · rintro ⟨original, count, ⟨counted, found⟩, stands, standing, rfl, rfl⟩
    refine ⟨count - 1, original, found, ?_, standing⟩
    omega
  · rintro ⟨place, original, found, rfl, standing⟩
    exact ⟨original, place + 1, ⟨by omega, found⟩, problem, standing, rfl, rfl⟩

theorem problems_ascend : history.problems.Pairwise fun front back => compare front.1 back.1 = .lt := by
  have counted : (history.opened.zipIdx 1).Pairwise fun front back => front.2 < back.2 := by
    have indices : ((history.opened.zipIdx 1).map Prod.snd).Pairwise (· < ·) := by
      rw [List.zipIdx_map_snd]
      exact List.pairwise_lt_range'
    exact List.pairwise_map.mp indices
  rw [problems, List.pairwise_filterMap]
  refine counted.imp fun {front back} before => ?_
  simp only [Option.map_eq_some_iff]
  rintro _ ⟨_, _, rfl⟩ _ ⟨_, _, rfl⟩
  exact Int.compare_eq_lt.mpr (by omega)

/-- What a deed does to the standing of a problem. -/
theorem standing?_concat (number : Int) (problem : Problem) : (history ++ [deed]).standing? number problem =
    if deed = .problemResolved number then none
    else (history.standing? number problem).map fun before =>
      { before with acknowledged := before.acknowledged || decide (deed = .problemAcknowledged number) } := by
  simp only [standing?, List.mem_append, List.mem_singleton, eq_comm (a := deed)]
  by_cases resolved : .problemResolved number ∈ history
  · simp [resolved]
  · by_cases now : .problemResolved number = deed <;> simp [resolved, now, Bool.or_assoc]

/-- What is done to maps and triggers leaves the problems alone. -/
theorem problems_concat (unopened : deed.opened? = none)
    (unsettled : ∀ number, deed ≠ .problemAcknowledged number ∧ deed ≠ .problemResolved number) :
    (history ++ [deed]).problems = history.problems := by
  simp [problems, opened_concat, unopened, standing?_concat, unsettled]

/-- A problem that has been opened comes last, with the next number. -/
theorem problems_concat_opened {problem : Problem}
    (fresh : history.standing? (history.opened.length + 1 : Nat) problem = some problem) :
    problems (history ++ [Deed.problemOpened problem]) =
      history.problems ++ [(((history.opened.length + 1 : Nat) : Int), problem)] := by
  simp only [problems, opened_concat, Deed.opened?, standing?_concat, reduceCtorEq, if_false, decide_false,
    Bool.or_false, Option.map_id', Option.toList_some, List.zipIdx_append, List.filterMap_append]
  rw [Nat.add_comm 1]
  simp only [List.zipIdx_singleton, List.filterMap_cons, List.filterMap_nil, fresh, Option.map_some]

theorem mem_problems_acknowledged {number other : Int} {problem : Problem} :
    (other, problem) ∈ problems (history ++ [Deed.problemAcknowledged number]) ↔
      ∃ before, (other, before) ∈ history.problems ∧
        problem = if other = number then { before with acknowledged := true } else before := by
  have standing (original : Problem) :
      standing? (history ++ [Deed.problemAcknowledged number]) other original = some problem ↔
        ∃ before, history.standing? other original = some before ∧
          problem = if other = number then { before with acknowledged := true } else before := by
    rw [standing?_concat, if_neg (by simp), Option.map_eq_some_iff]
    refine exists_congr fun before => and_congr_right fun _ => ?_
    by_cases same : other = number <;> simp [same, Ne.symm, eq_comm (a := number), eq_comm (a := problem)]
  simp only [mem_problems, opened_concat, Deed.opened?, Option.toList_none, List.append_nil, standing]
  constructor
  · rintro ⟨place, original, found, numbered, before, stood, changed⟩
    exact ⟨before, ⟨place, original, found, numbered, stood⟩, changed⟩
  · rintro ⟨before, ⟨place, original, found, numbered, stood⟩, changed⟩
    exact ⟨place, original, found, numbered, before, stood, changed⟩

theorem mem_problems_resolved {number other : Int} {problem : Problem} :
    (other, problem) ∈ problems (history ++ [Deed.problemResolved number]) ↔
      other ≠ number ∧ (other, problem) ∈ history.problems := by
  have standing (original : Problem) :
      standing? (history ++ [Deed.problemResolved number]) other original = some problem ↔
        other ≠ number ∧ history.standing? other original = some problem := by
    rw [standing?_concat]
    by_cases same : other = number <;> simp [same, eq_comm (a := number)]
  simp only [mem_problems, opened_concat, Deed.opened?, Option.toList_none, List.append_nil, standing]
  constructor
  · rintro ⟨place, original, found, numbered, differ, stood⟩
    exact ⟨differ, place, original, found, numbered, stood⟩
  · rintro ⟨differ, place, original, found, numbered, stood⟩
    exact ⟨place, original, found, numbered, differ, stood⟩

theorem exists_of_map? {id : MapId} {map : NetworkMap} (found : history.map? id = some map) :
    ∃ original, .mapInserted original ∈ history ∧ map = { original with submaps := ∅ } := by
  obtain ⟨deed, last, left⟩ := Option.bind_eq_some_iff.mp found
  have member := (List.mem_filter.mp (List.mem_of_getLast? last)).1
  cases deed with
  | mapInserted original => exact ⟨original, member, (Option.some.inj left).symm⟩
  | mapDeleted | triggerInserted | problemOpened | problemAcknowledged | problemResolved => cases left

end Chronicle

/-- The change has something to work on, according to the chronicle. -/
def Change.PossibleAfter (history : Chronicle) : Change → Prop
  | insertMap map => map.validate = .ok ()
  | deleteMap id => ∃ map, history.map? id = some map
  | insertProblem problem => ∃ trigger, history.trigger? problem.trigger = some trigger
  | acknowledge number | resolve number => ∃ problem, (number, problem) ∈ history.problems
  | insertTrigger _ | setSeverityConfig _ | setEntry .. | deleteEntry .. | setOpened .. | setSelected .. => True

namespace Memory

/-- The store after a deed. -/
def carryOut (store : Memory) : Deed → Memory
  | .mapInserted map => { store with maps := store.maps.insert map.id { map with submaps := ∅ } }
  | .mapDeleted id => { store with maps := store.maps.erase id }
  | .triggerInserted trigger => { store with triggers := store.triggers.insert trigger.id trigger }
  | .problemOpened problem =>
      { store with
        problems := store.problems.insert store.nextProblem problem
        nextProblem := store.nextProblem + 1 }
  | .problemAcknowledged number =>
      { store with problems := store.problems.modify number ({ · with acknowledged := true }) }
  | .problemResolved number => { store with problems := store.problems.erase number }

/-- What a store asks of a deed. -/
def Allows (store : Memory) : Deed → Prop
  | .mapInserted map => map.validate = .ok ()
  | .mapDeleted id => id ∈ store.maps
  | .triggerInserted _ => True
  | .problemOpened problem => problem.trigger ∈ store.triggers
  | .problemAcknowledged number | .problemResolved number => number ∈ store.problems

section Writes

variable {store changed : Memory}

theorem insertMap_eq_ok_iff {map : NetworkMap} : Store.insertMap store map = .ok changed ↔
    store.Allows (.mapInserted map) ∧ changed = store.carryOut (.mapInserted map) := by
  change store.insertMap map = _ ↔ map.validate = .ok () ∧ _
  rw [Memory.insertMap]
  cases map.validate <;> simp [carryOut, eq_comm, pure, Except.pure, bind, Except.bind]

theorem deleteMap_eq_ok_iff {id : MapId} : Store.deleteMap store id = .ok changed ↔
    store.Allows (.mapDeleted id) ∧ changed = store.carryOut (.mapDeleted id) := by
  change store.deleteMap id = _ ↔ id ∈ store.maps ∧ _
  rw [Memory.deleteMap, ← Std.ExtTreeMap.contains_iff_mem]
  split <;> simp [*, carryOut, eq_comm, pure, Except.pure, throw, throwThe, MonadExceptOf.throw]

theorem insertTrigger_eq_ok_iff {trigger : Trigger} : Store.insertTrigger store trigger = .ok changed ↔
    store.Allows (.triggerInserted trigger) ∧ changed = store.carryOut (.triggerInserted trigger) := by
  change Except.ok (store.insertTrigger trigger) = _ ↔ True ∧ _
  rw [Except.ok.injEq, true_and, eq_comm]
  rfl

theorem insertProblem_eq_ok_iff {problem : Problem} {number : Int} :
    Store.insertProblem store problem = .ok (changed, number) ↔
      store.Allows (.problemOpened problem) ∧ number = store.nextProblem ∧
        changed = store.carryOut (.problemOpened problem) := by
  change store.insertProblem problem = _ ↔ problem.trigger ∈ store.triggers ∧ _
  rw [Memory.insertProblem, ← Std.ExtTreeMap.contains_iff_mem]
  split <;> simp [*, carryOut, eq_comm, and_comm, pure, Except.pure, throw, throwThe, MonadExceptOf.throw]

/-- The same for the way in which a snapshot opens its problems, where nobody asks for the number. -/
theorem allows_of_insertProblem {problem : Problem}
    (written : (Store.insertProblem store problem).map Prod.fst = .ok changed) :
    store.Allows (.problemOpened problem) ∧ changed = store.carryOut (.problemOpened problem) := by
  obtain ⟨_, inserted, rfl⟩ := exists_of_map_eq_ok written
  obtain ⟨allowed, _, carried⟩ := insertProblem_eq_ok_iff.mp inserted
  exact ⟨allowed, carried⟩

theorem acknowledge_eq_ok_iff {number : Int} : Store.acknowledge store number = .ok changed ↔
    store.Allows (.problemAcknowledged number) ∧ changed = store.carryOut (.problemAcknowledged number) := by
  change store.acknowledge number = _ ↔ number ∈ store.problems ∧ _
  rw [Memory.acknowledge, mem_iff_exists_getElem?]
  cases found : store.problems[number]? with
  | none => simp [throw, throwThe, MonadExceptOf.throw]
  | some problem =>
    have same := insert_eq_modify found ({ · with acknowledged := true })
    simp [same, carryOut, eq_comm, pure, Except.pure]

theorem resolve_eq_ok_iff {number : Int} : Store.resolve store number = .ok changed ↔
    store.Allows (.problemResolved number) ∧ changed = store.carryOut (.problemResolved number) := by
  change store.resolve number = _ ↔ number ∈ store.problems ∧ _
  rw [Memory.resolve, ← Std.ExtTreeMap.contains_iff_mem]
  split <;> simp [*, carryOut, eq_comm, pure, Except.pure, throw, throwThe, MonadExceptOf.throw]

end Writes

/-- The store holds what its chronicle says, and the chronicle tells of nothing that the store would have
refused. -/
structure Remembers (store : Memory) (history : Chronicle) : Prop where
  maps : ∀ id : MapId, store.maps[id]? = history.map? id
  valid : ∀ map, .mapInserted map ∈ history → map.validate = .ok ()
  triggers : ∀ id : TriggerId, store.triggers[id]? = history.trigger? id
  problems : ∀ (number : Int) (problem : Problem),
    store.problems[number]? = some problem ↔ (number, problem) ∈ history.problems
  numbered : store.nextProblem = history.opened.length + 1
  raised : ∀ problem ∈ history.opened, problem.trigger ∈ store.triggers
  settled : ∀ number : Int, .problemAcknowledged number ∈ history ∨ .problemResolved number ∈ history →
    number < store.nextProblem

theorem remembers_empty : empty.Remembers [] where
  maps _ := rfl
  valid := by simp
  triggers _ := rfl
  problems := by simp [Chronicle.problems, Chronicle.opened, empty]
  numbered := rfl
  raised := by simp [Chronicle.opened]
  settled := by simp

namespace Remembers

open Chronicle

variable {store changed : Memory} {history : Chronicle}

/-- A number that has been given is less than the next one. -/
theorem number_lt (remembers : store.Remembers history) {number : Int} (open_still : number ∈ store.problems) :
    number < store.nextProblem := by
  obtain ⟨problem, found⟩ := mem_iff_exists_getElem?.mp open_still
  obtain ⟨place, original, opened, rfl, _⟩ := mem_problems.mp ((remembers.problems number problem).mp found)
  have bound := (List.getElem?_eq_some_iff.mp opened).1
  rw [remembers.numbered]
  omega

/-- Nothing has become of the next problem yet. -/
theorem standing?_next (remembers : store.Remembers history) (problem : Problem) :
    history.standing? (history.opened.length + 1 : Nat) problem = some problem := by
  have below := remembers.settled (history.opened.length + 1 : Nat)
  rw [remembers.numbered] at below
  have unresolved : .problemResolved (history.opened.length + 1 : Nat) ∉ history :=
    fun member => absurd (below (.inr member)) (lt_irrefl _)
  have unacknowledged : .problemAcknowledged (history.opened.length + 1 : Nat) ∉ history :=
    fun member => absurd (below (.inl member)) (lt_irrefl _)
  rw [standing?, if_neg unresolved, decide_eq_false unacknowledged, Bool.or_false]

/-- The open problems after a deed are those that the chronicle then tells of. -/
theorem problems_carryOut (remembers : store.Remembers history) (deed : Deed) (number : Int) (problem : Problem) :
    (store.carryOut deed).problems[number]? = some problem ↔
      (number, problem) ∈ Chronicle.problems (history ++ [deed]) := by
  cases deed with
  | mapInserted | mapDeleted | triggerInserted =>
    rw [problems_concat rfl (by simp)]
    exact remembers.problems number problem
  | problemOpened opened =>
    rw [problems_concat_opened (remembers.standing?_next opened), List.mem_append, ← remembers.problems,
      ← remembers.numbered, List.mem_singleton]
    have unused (held : Problem) : store.problems[(store.nextProblem : Int)]? ≠ some held := fun found =>
      absurd (remembers.number_lt (mem_iff_exists_getElem?.mpr ⟨held, found⟩)) (lt_irrefl _)
    simp only [Memory.carryOut, Std.ExtTreeMap.getElem?_insert, Std.compare_eq_iff_eq, Prod.mk.injEq]
    by_cases new : (store.nextProblem : Int) = number
    · subst new
      simp [unused, eq_comm]
    · simp [new, Ne.symm new]
  | problemAcknowledged other =>
    simp only [mem_problems_acknowledged, ← remembers.problems, Memory.carryOut,
      Std.ExtTreeMap.getElem?_modify, Std.compare_eq_iff_eq]
    by_cases same : other = number
    · subst same
      simp [eq_comm]
    · simp [same, Ne.symm same]
  | problemResolved other =>
    rw [mem_problems_resolved, ← remembers.problems]
    simp only [Memory.carryOut, Std.ExtTreeMap.getElem?_erase, Std.compare_eq_iff_eq]
    by_cases same : other = number
    · simp [same]
    · simp [same, Ne.symm same]

/-- After a deed that the store allows, it remembers that one too. -/
theorem carryOut (remembers : store.Remembers history) {deed : Deed} (allowed : store.Allows deed) :
    (store.carryOut deed).Remembers (history ++ [deed]) := by
  constructor
  case maps =>
    intro id
    rw [map?_concat, ← remembers.maps]
    cases deed with
    | mapInserted map => simp [Memory.carryOut, Std.ExtTreeMap.getElem?_insert, Deed.concernsMap, Deed.map?]
    | mapDeleted id => simp [Memory.carryOut, Std.ExtTreeMap.getElem?_erase, Deed.concernsMap, Deed.map?]
    | triggerInserted | problemOpened | problemAcknowledged | problemResolved => rfl
  case valid =>
    intro map member
    rcases List.mem_append.mp member with earlier | last
    · exact remembers.valid map earlier
    · obtain rfl := List.mem_singleton.mp last
      exact allowed
  case triggers =>
    intro id
    rw [trigger?_concat, ← remembers.triggers]
    cases deed with
    | triggerInserted trigger =>
      simp [Memory.carryOut, Std.ExtTreeMap.getElem?_insert, Deed.concernsTrigger, Deed.trigger?]
    | mapInserted | mapDeleted | problemOpened | problemAcknowledged | problemResolved => rfl
  case problems => exact remembers.problems_carryOut deed
  case numbered =>
    rw [opened_concat]
    cases deed with
    | problemOpened => simp [Memory.carryOut, Deed.opened?, remembers.numbered]
    | mapInserted | mapDeleted | triggerInserted | problemAcknowledged | problemResolved =>
      simpa [Memory.carryOut, Deed.opened?] using remembers.numbered
  case raised =>
    rw [opened_concat, List.forall_mem_append]
    cases deed with
    | problemOpened problem =>
      refine ⟨remembers.raised, fun other member => ?_⟩
      obtain rfl : other = problem := by simpa [Deed.opened?] using member
      exact allowed
    | triggerInserted =>
      refine ⟨fun problem member => ?_, by simp [Deed.opened?]⟩
      exact Std.ExtTreeMap.mem_insert.mpr (.inr (remembers.raised problem member))
    | mapInserted | mapDeleted | problemAcknowledged | problemResolved =>
      exact ⟨remembers.raised, by simp [Deed.opened?]⟩
  case settled =>
    intro number settles
    have grows : store.nextProblem ≤ (store.carryOut deed).nextProblem := by
      cases deed <;> simp [Memory.carryOut]
    have given : number < store.nextProblem := by
      simp only [List.mem_append, List.mem_singleton] at settles
      rcases settles with (earlier | rfl) | earlier | rfl
      · exact remembers.settled number (.inl earlier)
      · exact remembers.number_lt allowed
      · exact remembers.settled number (.inr earlier)
      · exact remembers.number_lt allowed
    omega

/-- The configuration and the profiles are no part of the chronicle. -/
theorem setUp (remembers : store.Remembers history) (config : Option SeverityConfig) (profile : Profile) :
    Remembers { store with config, profile } history where
  maps := remembers.maps
  valid := remembers.valid
  triggers := remembers.triggers
  problems := remembers.problems
  numbered := remembers.numbered
  raised := remembers.raised
  settled := remembers.settled

/-- After a change that succeeds, the store remembers what the change did. -/
theorem apply (remembers : store.Remembers history) {change : Change} {answer : Answer}
    (made : change.apply store = .ok (answer, changed)) : changed.Remembers (history ++ change.deeds) := by
  cases change with
  | insertMap map =>
    obtain ⟨_, inserted, same⟩ := exists_of_map_eq_ok made
    obtain ⟨allowed, rfl⟩ := insertMap_eq_ok_iff.mp inserted
    cases same
    exact remembers.carryOut allowed
  | deleteMap id =>
    obtain ⟨_, deleted, same⟩ := exists_of_map_eq_ok made
    obtain ⟨allowed, rfl⟩ := deleteMap_eq_ok_iff.mp deleted
    cases same
    exact remembers.carryOut allowed
  | insertTrigger trigger =>
    obtain ⟨_, inserted, same⟩ := exists_of_map_eq_ok made
    obtain ⟨allowed, rfl⟩ := insertTrigger_eq_ok_iff.mp inserted
    cases same
    exact remembers.carryOut allowed
  | insertProblem problem =>
    obtain ⟨_, inserted, same⟩ := exists_of_map_eq_ok made
    obtain ⟨allowed, _, carried⟩ := insertProblem_eq_ok_iff.mp inserted
    cases same
    exact carried ▸ remembers.carryOut allowed
  | acknowledge number =>
    obtain ⟨_, acknowledged, same⟩ := exists_of_map_eq_ok made
    obtain ⟨allowed, rfl⟩ := acknowledge_eq_ok_iff.mp acknowledged
    cases same
    exact remembers.carryOut allowed
  | resolve number =>
    obtain ⟨_, resolved, same⟩ := exists_of_map_eq_ok made
    obtain ⟨allowed, rfl⟩ := resolve_eq_ok_iff.mp resolved
    cases same
    exact remembers.carryOut allowed
  | setSeverityConfig | setEntry | deleteEntry | setSelected =>
    cases made
    rw [Change.deeds, List.append_nil]
    exact remembers.setUp _ _
  | setOpened _ _ _ isOpen =>
    cases made
    rw [Change.deeds, List.append_nil]
    cases isOpen <;> exact remembers.setUp _ _

/-- A store that takes in some values remembers a deed for each of them. -/
theorem foldlM (remembers : store.Remembers history) {α : Type} {write : Memory → α → Except StoreFault Memory}
    (deed : α → Deed) (each : ∀ store value changed, write store value = .ok changed →
      store.Allows (deed value) ∧ changed = store.carryOut (deed value))
    {values : List α} (success : values.foldlM write store = .ok changed) :
    changed.Remembers (history ++ values.map deed) := by
  induction values generalizing store history with
  | nil =>
    obtain rfl := Except.ok.inj success
    simpa using remembers
  | cons value rest ih =>
    rw [List.foldlM_cons] at success
    obtain ⟨between, written, success⟩ := exists_ok_of_bind success
    obtain ⟨allowed, rfl⟩ := each store value between written
    simpa using ih (remembers.carryOut allowed) success

theorem insertInto (remembers : store.Remembers history) {snapshot : Snapshot}
    (inserted : snapshot.insertInto store = .ok changed) : changed.Remembers (history ++ snapshot.deeds) := by
  obtain ⟨mapped, maps, inserted⟩ := exists_ok_of_bind inserted
  obtain ⟨triggered, triggers, inserted⟩ := exists_ok_of_bind inserted
  obtain ⟨raised, problems, configured⟩ := exists_ok_of_bind inserted
  have mapped := remembers.foldlM .mapInserted (fun _ _ _ => insertMap_eq_ok_iff.mp) maps
  have triggered := mapped.foldlM .triggerInserted (fun _ _ _ => insertTrigger_eq_ok_iff.mp) triggers
  have raised := triggered.foldlM .problemOpened (fun _ _ _ => allows_of_insertProblem) problems
  rw [Snapshot.deeds, ← List.append_assoc, ← List.append_assoc]
  split at configured
  · cases configured
    exact raised.setUp _ _
  · cases configured
    exact raised

end Remembers

/-- A snapshot that a store in memory does not take in leaves it as it was. -/
theorem load_eq_error {snapshot : Snapshot} {store after : Memory} {fault : StoreFault}
    (refused : snapshot.load store = (.error fault, after)) : after = store := by
  cases checked : snapshot.check store with
  | error reason =>
    rw [Snapshot.load_of_check_error checked] at refused
    exact (congrArg Prod.snd refused).symm
  | ok =>
    obtain ⟨inserted, success⟩ := insertInto_of_check checked
    rw [Snapshot.load_of_insertInto checked success] at refused
    cases refused

theorem load_eq_ok_iff {snapshot : Snapshot} {store after : Memory} {summary : LoadSummary} :
    snapshot.load store = (.ok summary, after) ↔
      snapshot.check store = .ok () ∧ summary = snapshot.summary ∧ snapshot.insertInto store = .ok after := by
  cases checked : snapshot.check store with
  | error reason =>
    rw [Snapshot.load_of_check_error checked]
    simp
  | ok =>
    obtain ⟨inserted, success⟩ := insertInto_of_check checked
    rw [Snapshot.load_of_insertInto checked success, success]
    simp [eq_comm]

/-- A call that fails leaves the store as it was. -/
theorem perform_of_error {operation : Operation} {store : Memory} {refusal : Refusal}
    (failed : (operation.perform Snapshot.load store).1 = .error refusal) :
    (operation.perform Snapshot.load store).2 = store := by
  cases operation with
  | ask question => rfl
  | change change =>
    simp only [Operation.perform] at failed ⊢
    cases made : change.apply store with
    | error fault => rfl
    | ok result =>
      rw [made] at failed
      cases failed
  | take snapshot =>
    simp only [Operation.perform] at failed ⊢
    cases loaded : snapshot.load store with
    | mk result after =>
      rw [loaded] at failed
      cases result with
      | error fault => exact load_eq_error loaded
      | ok summary => cases failed

/-- After any call, the store remembers what the call did. -/
theorem Remembers.after {store : Memory} {history : Chronicle} (remembers : store.Remembers history)
    (operation : Operation) :
    (operation.perform Snapshot.load store).2.Remembers
      (history ++ operation.deeds (operation.perform Snapshot.load store).1) := by
  cases operation with
  | ask question => simpa [Operation.perform, Operation.deeds] using remembers
  | change change =>
    simp only [Operation.perform]
    cases made : change.apply store with
    | error fault => simpa [Operation.deeds] using remembers
    | ok result => exact remembers.apply made
  | take snapshot =>
    simp only [Operation.perform]
    cases loaded : snapshot.load store with
    | mk result after =>
      cases result with
      | error fault =>
        rw [load_eq_error loaded]
        change store.Remembers (history ++ [])
        rwa [List.append_nil]
      | ok summary => exact remembers.insertInto (load_eq_ok_iff.mp loaded).2.2

/-- After any calls, the store remembers everything that they did. -/
theorem Remembers.afterAll {store : Memory} {history : Chronicle} (remembers : store.Remembers history)
    (operations : List Operation) :
    (performAll Snapshot.load operations store).2.Remembers
      (history ++ chronicle operations (performAll Snapshot.load operations store).1) := by
  induction operations generalizing store history with
  | nil => simpa [performAll, chronicle] using remembers
  | cons operation rest ih =>
    have next := ih (remembers.after operation)
    rw [List.append_assoc] at next
    exact next

section Numbers

variable {store : Memory} {number : Int}

/-- No question is answered with the number of a new problem. -/
theorem answer_ne_problem (question : Question) : question.answer store ≠ .ok (.problem number) := by
  have unnumbered {ε α : Type} (result : Except ε α) (name : α → Answer) (wrap : ε → Refusal)
      (other : ∀ value, name value ≠ .problem number) : (result.map name).mapError wrap ≠ .ok (.problem number) := by
    cases result with
    | error fault => nofun
    | ok value => exact fun same => other value (Except.ok.inj same)
  cases question with
  | entry | entryNames | opened | selected => nofun
  | map | mapIds | maps | trigger | triggers | problems | severityConfig | check | view =>
    rw [Question.answer]
    exact unnumbered _ _ _ fun _ => nofun

/-- A call that gives a number to a problem gives the next one. -/
theorem perform_of_problem {operation : Operation}
    (given : (operation.perform Snapshot.load store).1 = .ok (.problem number)) :
    number = store.nextProblem ∧ number < (operation.perform Snapshot.load store).2.nextProblem := by
  cases operation with
  | ask question => exact absurd given (answer_ne_problem question)
  | change change =>
    simp only [Operation.perform] at given ⊢
    cases made : change.apply store with
    | error fault =>
      rw [made] at given
      cases given
    | ok result =>
      obtain ⟨answer, changed⟩ := result
      rw [made] at given
      obtain rfl := Except.ok.inj given
      cases change with
      | insertProblem problem =>
        obtain ⟨⟨_, _⟩, inserted, same⟩ := exists_of_map_eq_ok made
        obtain ⟨_, rfl, rfl⟩ := insertProblem_eq_ok_iff.mp inserted
        cases same
        exact ⟨rfl, Int.lt_succ _⟩
      | insertMap | deleteMap | insertTrigger | acknowledge | resolve | setSeverityConfig =>
        obtain ⟨_, _, same⟩ := exists_of_map_eq_ok made
        cases same
      | setEntry | deleteEntry | setOpened | setSelected => cases made
  | take snapshot =>
    simp only [Operation.perform] at given
    cases loaded : snapshot.load store with
    | mk result after =>
      rw [loaded] at given
      cases result <;> cases given

end Numbers

namespace Remembers

variable {store : Memory} {history : Chronicle}

theorem nextProblem_le {later : Memory} {more : Chronicle} (remembers : store.Remembers history)
    (after : later.Remembers (history ++ more)) : store.nextProblem ≤ later.nextProblem := by
  rw [remembers.numbered, after.numbered, Chronicle.opened, Chronicle.opened, List.filterMap_append,
    List.length_append]
  omega

/-- Every number that has been given to a problem is less than the next one. -/
theorem lt_nextProblem (remembers : store.Remembers history) {operations : List Operation} {number : Int}
    (given : Except.ok (.problem number) ∈ (performAll Snapshot.load operations store).1) :
    number < (performAll Snapshot.load operations store).2.nextProblem := by
  induction operations generalizing store history with
  | nil => cases given
  | cons operation rest ih =>
    have next := remembers.after operation
    rcases List.mem_cons.mp given with now | later
    · have below := (perform_of_problem now.symm).2
      have grows := next.nextProblem_le (next.afterAll rest)
      change number < ((performAll Snapshot.load rest (operation.perform Snapshot.load store).2).2.nextProblem : Int)
      omega
    · exact ih next later

/-- The problems of the store, in the order of their numbers. -/
theorem toList_problems (remembers : store.Remembers history) : store.problems.toList = history.problems := by
  refine eq_of_ascending Prod.fst Std.ExtTreeMap.ordered_keys_toList Chronicle.problems_ascend ?_
  rintro ⟨number, problem⟩
  rw [Std.ExtTreeMap.mem_toList_iff_getElem?_eq_some, remembers.problems]

theorem problemsOf_eq (remembers : store.Remembers history) (query : ProblemQuery) :
    store.problemsOf query = (history.problems.map Prod.snd).filter query.wants := by
  rw [problemsOf, values_eq_map_toList, remembers.toList_problems]

/-- A change succeeds if the chronicle has something for it to work on. -/
theorem exists_apply_iff (remembers : store.Remembers history) (change : Change) :
    (∃ answer changed, change.apply store = .ok (answer, changed)) ↔ change.PossibleAfter history := by
  have answered {α : Type} (result : Except StoreFault α) (answer : α → Answer × Memory) :
      (∃ given changed, result.map answer = .ok (given, changed)) ↔ ∃ value, result = .ok value := by
    cases result with
    | error fault => simp [Except.map]
    | ok value => exact iff_of_true ⟨(answer value).1, (answer value).2, rfl⟩ ⟨value, rfl⟩
  have possible {number : Int} : number ∈ store.problems ↔ ∃ problem, (number, problem) ∈ history.problems := by
    simp only [mem_iff_exists_getElem?, remembers.problems]
  cases change with
  | insertMap map =>
    rw [Change.apply, answered]
    simp only [insertMap_eq_ok_iff, exists_and_left, exists_eq, and_true]
    rfl
  | deleteMap id =>
    rw [Change.apply, answered]
    simp only [deleteMap_eq_ok_iff, exists_and_left, exists_eq, and_true, Allows, mem_iff_exists_getElem?,
      remembers.maps]
    rfl
  | insertProblem problem =>
    rw [Change.apply, answered]
    simp only [Prod.exists, insertProblem_eq_ok_iff, exists_and_left, exists_eq_left, exists_eq, and_true, Allows,
      mem_iff_exists_getElem?, remembers.triggers]
    rfl
  | acknowledge number =>
    rw [Change.apply, answered]
    simp only [acknowledge_eq_ok_iff, exists_and_left, exists_eq, and_true, Allows, possible]
    rfl
  | resolve number =>
    rw [Change.apply, answered]
    simp only [resolve_eq_ok_iff, exists_and_left, exists_eq, and_true, Allows, possible]
    rfl
  | insertTrigger | setSeverityConfig | setEntry | deleteEntry | setOpened | setSelected =>
    exact iff_of_true ⟨_, _, rfl⟩ trivial

theorem map_eq (remembers : store.Remembers history) (id : MapId) :
    Store.map store id = (history.map? id).elim (.error (.mapNotFound id)) .ok := by
  change store.map id = _
  rw [Memory.map, remembers.maps]
  rfl

theorem trigger_eq (remembers : store.Remembers history) (id : TriggerId) :
    Store.trigger store id = (history.trigger? id).elim (.error (.triggerNotFound id)) .ok := by
  change store.trigger id = _
  rw [Memory.trigger, remembers.triggers]
  rfl

/-- The trigger of a stored problem is stored. -/
theorem trigger_stored (remembers : store.Remembers history) {problem : Problem}
    (stored : problem ∈ store.problems.values) : problem.trigger ∈ store.triggers := by
  obtain ⟨number, found⟩ := mem_values.mp stored
  obtain ⟨place, original, opened, _, standing⟩ :=
    Chronicle.mem_problems.mp ((remembers.problems number problem).mp found)
  have same := Chronicle.trigger_of_standing? standing
  exact same ▸ remembers.raised original (List.mem_of_getElem? opened)

/-- A stored map is one that was inserted, and so fit to be stored. -/
theorem map_fit (remembers : store.Remembers history) {id : MapId} {map : NetworkMap}
    (found : Store.map store id = .ok map) : map.submaps = ∅ ∧ map.validate = .ok () := by
  rw [remembers.map_eq] at found
  cases held : history.map? id with
  | none =>
    rw [held] at found
    cases found
  | some held_map =>
    rw [held] at found
    obtain rfl := Except.ok.inj found
    obtain ⟨original, inserted, rfl⟩ := Chronicle.exists_of_map? held
    exact ⟨rfl, remembers.valid original inserted⟩

end Remembers

/-- Whatever calls a store in memory has gone through since it was empty, it holds what the chronicle of
these calls says, and a call that fails from then on changes nothing. A change succeeds if there is something
for it to work on. A new problem gets a number above all that have been given before, also to problems that
have been resolved since. The open problems that a query wants are listed in the order in which they were
opened, their triggers are all stored, and inserting a trigger once more leaves them alone. A map is found
as it was inserted last, unless it has been deleted since, and the maps that are found are listed in
ascending order. -/
theorem holds_chronicle (operations : List Operation) :
    ∃ outcomes store, performAll Snapshot.load operations (Store.empty : Memory) = (outcomes, store) ∧
      let history := chronicle operations outcomes
      (∀ (operation : Operation) (refusal : Refusal),
        (operation.perform Snapshot.load store).1 = .error refusal →
        (operation.perform Snapshot.load store).2 = store) ∧
      (∀ change : Change, (∃ answer changed, change.apply store = .ok (answer, changed)) ↔
        change.PossibleAfter history) ∧
      (∀ problem number changed, Store.insertProblem store problem = .ok (changed, number) →
        number = (history.opened.length + 1 : Nat) ∧
          ∀ earlier, .ok (.problem earlier) ∈ outcomes → earlier < number) ∧
      (∀ query, (Store.feeds store).problems query =
        .ok ((history.problems.map Prod.snd).filter fun problem =>
          query.triggers.contains problem.trigger && decide (query.minSeverity ≤ problem.severity))) ∧
      (∀ problem ∈ store.problems.values, ∃ trigger, Store.trigger store problem.trigger = .ok trigger) ∧
      (∀ trigger, ∃ changed, Store.insertTrigger store trigger = .ok changed ∧
        ∀ query, (Store.feeds changed).problems query = (Store.feeds store).problems query) ∧
      (∀ id, Store.trigger store id = (history.trigger? id).elim (.error (.triggerNotFound id)) .ok) ∧
      (∀ id, Store.map store id = (history.map? id).elim (.error (.mapNotFound id)) .ok) ∧
      (∀ id map, Store.map store id = .ok map → map.submaps = ∅ ∧ map.validate = .ok ()) ∧
      ∃ ids, Store.mapIds store = .ok ids ∧ ids.Pairwise (compare · · = .lt) ∧
        ∀ id, id ∈ ids ↔ ∃ map, Store.map store id = .ok map := by
  have remembers := remembers_empty.afterAll operations
  have given (number : Int) (member : .ok (.problem number) ∈ (performAll Snapshot.load operations empty).1) :
      number < (performAll Snapshot.load operations empty).2.nextProblem :=
    remembers_empty.lt_nextProblem member
  rw [List.nil_append] at remembers
  refine ⟨_, _, rfl, fun _ _ failed => perform_of_error failed, remembers.exists_apply_iff, ?numbers,
    fun query => congrArg Except.ok (remembers.problemsOf_eq query), ?raised,
    fun _ => ⟨_, rfl, fun _ => rfl⟩, remembers.trigger_eq, remembers.map_eq, fun _ _ => remembers.map_fit, _, rfl,
    Std.ExtTreeMap.ordered_keys, ?listed⟩
  case numbers =>
    intro problem number changed inserted
    obtain ⟨_, rfl, _⟩ := insertProblem_eq_ok_iff.mp inserted
    exact ⟨congrArg Nat.cast remembers.numbered, given⟩
  case raised =>
    intro problem member
    exact mem_triggers_iff.mp (remembers.trigger_stored member)
  case listed =>
    intro id
    rw [Std.ExtTreeMap.mem_keys, mem_iff_exists_getElem?]
    exact exists_congr fun map => map_eq_ok_iff.symm

/-- A number is not given again once its problem is resolved, and a trigger that is inserted once more keeps
its problem. -/
example :
    let trigger : Trigger := ⟨⟨7⟩, .high, ∅, ∅, false⟩
    (performAll Snapshot.load
      [.change (.insertProblem ⟨⟨7⟩, .high, false⟩), .change (.insertTrigger trigger),
        .change (.insertProblem ⟨⟨7⟩, .high, false⟩), .change (.resolve 1),
        .change (.insertProblem ⟨⟨7⟩, .disaster, false⟩), .change (.acknowledge 2),
        .change (.insertTrigger trigger), .ask (.problems ⟨{⟨7⟩}, .warning⟩)] empty).1 =
      [.error (.store (.triggerNotFound ⟨7⟩)), .ok .done, .ok (.problem 1), .ok .done, .ok (.problem 2), .ok .done,
        .ok .done, .ok (.problems [⟨⟨7⟩, .disaster, true⟩])] := by
  decide +kernel

end Memory

end ProblemBoard
