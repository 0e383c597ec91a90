import ProblemBoard.Proofs.LifeCycle

/-! # Loading a snapshot again

A snapshot that a store in memory has taken in can be loaded once more. The store then holds the same maps
and triggers, since what was inserted last is what is found, and every problem of the snapshot is open twice.
Counting does not notice: which problem of a trigger is the gravest, and whether one of them has not been
acknowledged, is a matter of which problems there are and not of how many.
-/

namespace ProblemBoard

open Navigation

namespace Chronicle

variable {history more : Chronicle}

theorem last_append (kind : Deed → Bool) : last (history ++ more) kind = (more.last kind).or (history.last kind) := by
  rw [last, List.filter_append, List.getLast?_append]
  rfl

/-- What is done over again leaves the last word where it was. -/
theorem last_append_again (kind : Deed → Bool) :
    last (history ++ more ++ more) kind = last (history ++ more) kind := by
  rw [last_append, last_append]
  cases more.last kind <;> rfl

end Chronicle

namespace Memory

namespace Remembers

variable {store changed : Memory} {history : Chronicle} {snapshot : Snapshot}

/-- A problem that is opened comes last. -/
theorem values_carryOut (remembers : store.Remembers history) {problem : Problem}
    (allowed : store.Allows (.problemOpened problem)) :
    (store.carryOut (.problemOpened problem)).problems.values = store.problems.values ++ [problem] := by
  rw [values_eq_map_toList, values_eq_map_toList, (remembers.carryOut allowed).toList_problems,
    Chronicle.problems_concat_opened (remembers.standing?_next problem), remembers.toList_problems,
    List.map_append]
  rfl

theorem values_foldlM (remembers : store.Remembers history) {problems : List Problem}
    (opened : problems.foldlM (fun store problem => (Store.insertProblem store problem).map Prod.fst) store =
      .ok changed) : changed.problems.values = store.problems.values ++ problems := by
  induction problems generalizing store history with
  | nil =>
    obtain rfl := Except.ok.inj opened
    rw [List.append_nil]
  | cons problem rest ih =>
    rw [List.foldlM_cons] at opened
    obtain ⟨between, written, opened⟩ := exists_ok_of_bind opened
    obtain ⟨allowed, rfl⟩ := allows_of_insertProblem written
    rw [ih (remembers.carryOut allowed) opened, remembers.values_carryOut allowed, List.append_assoc]
    rfl

/-- The problems of a snapshot come after those that were there. -/
theorem values_insertInto (remembers : store.Remembers history) (inserted : snapshot.insertInto store = .ok changed) :
    changed.problems.values = store.problems.values ++ snapshot.problems := by
  obtain ⟨mapped, maps, inserted⟩ := exists_ok_of_bind inserted
  obtain ⟨triggered, triggers, inserted⟩ := exists_ok_of_bind inserted
  obtain ⟨raised, problems, configured⟩ := exists_ok_of_bind inserted
  have remembers_maps := remembers.foldlM .mapInserted (fun _ _ _ => insertMap_eq_ok_iff.mp) maps
  have remembers_triggers :=
    remembers_maps.foldlM .triggerInserted (fun _ _ _ => insertTrigger_eq_ok_iff.mp) triggers
  have kept_by_map (before : Memory) (map : NetworkMap) (after : Memory) (same : before.problems = store.problems)
      (written : Store.insertMap before map = .ok after) : after.problems = store.problems := by
    obtain ⟨_, rfl⟩ := insertMap_eq_ok_iff.mp written
    exact same
  have kept_by_trigger (before : Memory) (trigger : Trigger) (after : Memory)
      (same : before.problems = store.problems) (written : Store.insertTrigger before trigger = .ok after) :
      after.problems = store.problems := by
    obtain ⟨_, rfl⟩ := insertTrigger_eq_ok_iff.mp written
    exact same
  have kept := keeps_of_foldlM kept_by_trigger (keeps_of_foldlM kept_by_map rfl maps) triggers
  have all_problems : changed.problems = raised.problems := by
    split at configured <;> cases configured <;> rfl
  rw [all_problems, remembers_triggers.values_foldlM problems, kept]

/-- A store that has taken in a snapshot passes its check. -/
theorem check_again (remembers : store.Remembers (history ++ snapshot.deeds)) : snapshot.check store = .ok () := by
  rw [Snapshot.check_eq_ok_iff]
  constructor
  · intro map member
    have inserted : .mapInserted map ∈ history ++ snapshot.deeds := by simp [Snapshot.deeds, member]
    exact NetworkMap.validate_eq_ok_iff.mp (remembers.valid map inserted)
  · intro problem member
    have opened : problem ∈ Chronicle.opened (history ++ snapshot.deeds) := by
      simp [Chronicle.opened, Snapshot.deeds, Deed.opened?, member]
    exact .inr (mem_triggers_iff.mp (remembers.raised problem opened))

/-- What is done over again changes no map and no trigger. -/
theorem kept_again {more : Chronicle} (remembers : store.Remembers (history ++ more))
    (again : changed.Remembers (history ++ more ++ more)) :
    changed.maps = store.maps ∧ changed.triggers = store.triggers := by
  constructor
  · refine Std.ExtTreeMap.ext_getElem? fun id => ?_
    rw [again.maps, remembers.maps, Chronicle.map?, Chronicle.map?, Chronicle.last_append_again]
  · refine Std.ExtTreeMap.ext_getElem? fun id => ?_
    rw [again.triggers, remembers.triggers, Chronicle.trigger?, Chronicle.trigger?, Chronicle.last_append_again]

end Remembers

/-- Feeds do not tell how often a problem is open. -/
theorem shifts_of_values {store changed : Memory} (maps : changed.maps = store.maps)
    (triggers : changed.triggers = store.triggers)
    (problems : ∀ problem, problem ∈ store.problems.values ↔ problem ∈ changed.problems.values) :
    (Store.feeds store).Shifts (fun before after => ∀ problem, problem ∈ before ↔ problem ∈ after)
      (Store.feeds changed) where
  maps := by
    funext ids
    change Except.ok (changed.mapsOf ids) = Except.ok (store.mapsOf ids)
    rw [mapsOf, mapsOf, maps]
  triggers := by
    funext query
    change Except.ok (changed.triggersOf query) = Except.ok (store.triggersOf query)
    rw [triggersOf, triggersOf, triggers]
  problems query answer given := by
    cases given
    exact ⟨_, rfl, fun problem => by simp only [problemsOf, List.mem_filter, problems]⟩

end Memory

namespace Snapshot

/-- Whatever calls a store in memory has gone through, a snapshot that it takes in can be loaded once more. The
maps and triggers of the store are then as they were, and the problems of the snapshot, which came after all
others, come once more; yet every tree that is made of a list of items has the counts that it had. -/
theorem load_again (operations : List Operation) (snapshot : Snapshot) {summary : LoadSummary} {loaded : Memory}
    (success : snapshot.load (performAll Snapshot.load operations (Store.empty : Memory)).2 = (.ok summary, loaded)) :
    let store := (performAll Snapshot.load operations (Store.empty : Memory)).2
    ∃ again, snapshot.load loaded = (.ok summary, again) ∧
      (again.maps = loaded.maps ∧ again.triggers = loaded.triggers) ∧
      loaded.problems.values = store.problems.values ++ snapshot.problems ∧
      again.problems.values = loaded.problems.values ++ snapshot.problems ∧
      ∀ items, ∃ tally, countProblems (Store.feeds loaded) (Tree.ofItems items) = .ok tally ∧
        countProblems (Store.feeds again) (Tree.ofItems items) = .ok tally := by
  intro store
  have remembers := Memory.remembers_empty.afterAll operations
  obtain ⟨_, rfl, inserted⟩ := Memory.load_eq_ok_iff.mp success
  have remembers_once := remembers.insertInto inserted
  obtain ⟨again, inserted_again⟩ := Memory.insertInto_of_check remembers_once.check_again
  have once := remembers.values_insertInto inserted
  have twice := remembers_once.values_insertInto inserted_again
  obtain ⟨maps, triggers⟩ := remembers_once.kept_again (remembers_once.insertInto inserted_again)
  have same_problems (problem : Problem) :
      problem ∈ loaded.problems.values ↔ problem ∈ again.problems.values := by
    rw [twice, List.mem_append, once, List.mem_append]
    simp
  refine ⟨again, load_of_insertInto remembers_once.check_again inserted_again, ⟨maps, triggers⟩, once, twice,
    fun items => ?_⟩
  obtain ⟨tally, counted⟩ := loaded.exists_countProblems (Tree.ofItems items)
  exact ⟨tally, counted, (Memory.shifts_of_values maps triggers same_problems).countProblems_eq counted⟩

/-- A map in two versions, a trigger in two versions, and a problem of a trigger that is not in the snapshot. -/
def repetitive : Snapshot where
  maps := [⟨⟨1⟩, "", .disaster, false, [], [], ∅⟩,
    ⟨⟨1⟩, "", .warning, true, [⟨.triggers [⟨7⟩, ⟨8⟩], .read⟩], [], ∅⟩]
  triggers := [⟨⟨8⟩, .information, ∅, ∅, true⟩, ⟨⟨8⟩, .average, ∅, ∅, false⟩]
  problems := [⟨⟨7⟩, .disaster, true⟩, ⟨⟨8⟩, .average, false⟩]
  config := none

/-- Both triggers count on the later version of the map, however often their problems are open. -/
theorem load_again_repetitive :
    let store := (performAll Snapshot.load pendingCalls (Store.empty : Memory)).2
    ∃ loaded again, repetitive.load store = (.ok ⟨2, 2, 2⟩, loaded) ∧
      repetitive.load loaded = (.ok ⟨2, 2, 2⟩, again) ∧
      again.problems.values = [⟨⟨7⟩, .high, false⟩, ⟨⟨7⟩, .disaster, true⟩, ⟨⟨8⟩, .average, false⟩,
        ⟨⟨7⟩, .disaster, true⟩, ⟨⟨8⟩, .average, false⟩] ∧
      (Store.feeds again).CountIn (Tree.ofItems [pendingItem]) pendingItem (.ofList [.disaster, .average]) := by
  intro store
  have success : repetitive.load store = (.ok ⟨2, 2, 2⟩, (repetitive.load store).2) := by decide +kernel
  obtain ⟨again, reloaded, _, once, twice, same⟩ := load_again pendingCalls repetitive success
  obtain ⟨tally, counted, recounted⟩ := same [pendingItem]
  have count : (countProblems (Store.feeds (repetitive.load store).2) (Tree.ofItems [pendingItem])).toOption.bind
      (·.buckets[pendingItem.id]?) = some (.ofList [.disaster, .average]) := by
    decide +kernel
  rw [counted] at count
  refine ⟨_, again, success, reloaded, ?_, tally, recounted, count⟩
  rw [twice, once]
  decide +kernel

end Snapshot

end ProblemBoard
