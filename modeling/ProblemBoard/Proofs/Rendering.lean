import ProblemBoard.Proofs.Interchange

/-! # Which boards a database can draw

Whatever calls a database has gone through, it mirrors some store in memory: what it took in fits into
cells, and what it refused has changed nothing. What maps refer to was not looked at, though, when they
were taken in. So a board is drawn if the maps that it leads to refer only to what fits into cells, and not to
too much at once, and then everything that does not exist counts for nothing; if not, the board is refused.
-/

namespace ProblemBoard

open Navigation

section Success

variable {database : Database}

/-- A change that a database makes touches only rows under identifiers that fit. -/
theorem Change.fits_of_apply {change : Change} {result : Answer × Database}
    (made : change.apply database = .ok result) : change.Fits fun _ => True := by
  cases change with
  | insertMap map =>
    obtain ⟨changed, written⟩ := exists_ok_of_map made
    exact ⟨Database.fits_of_insertMap written, trivial⟩
  | deleteMap id =>
    obtain ⟨changed, written⟩ := exists_ok_of_map made
    obtain ⟨key, kept, _⟩ := exists_ok_of_bind written
    exact Database.fits_of_cell kept
  | insertTrigger trigger =>
    obtain ⟨changed, written⟩ := exists_ok_of_map made
    exact Database.fits_of_insertTrigger written
  | insertProblem problem =>
    obtain ⟨changed, written⟩ := exists_ok_of_map made
    obtain ⟨key, kept, _⟩ := exists_ok_of_bind written
    exact Database.fits_of_cell kept
  | acknowledge | resolve | setSeverityConfig | setEntry | deleteEntry | setOpened | setSelected => trivial

/-- A snapshot that a database takes in fills only rows under identifiers that fit. -/
theorem Snapshot.fits_of_take {snapshot : Snapshot} {summary : LoadSummary} {after : Database}
    (taken : Database.take snapshot database = (.ok summary, after)) : snapshot.Fits fun _ => True := by
  obtain ⟨passed, _, inserted⟩ := Database.take_eq_ok_iff.mp taken
  obtain ⟨maps, triggers⟩ := Database.fits_of_insertInto inserted
  refine ⟨fun map member => ⟨maps map member, trivial⟩, triggers, fun problem member => ?_⟩
  rcases (Snapshot.check_eq_ok_iff.mp passed).2 problem member with ⟨trigger, brought, own⟩ | ⟨_, found⟩
  · exact own ▸ (triggers trigger brought).1
  · exact (Database.has_of_trigger found).1

theorem Database.fits_of_map {id : MapId} {map : NetworkMap} (found : Store.map database id = .ok map) :
    id.FitsCell := by
  by_contra large
  have unfit : ¬ ({id} : IdSet .map).FitsCells := fun fits => large (fits id List.mem_cons_self)
  obtain ⟨value, _, refused⟩ := Database.cells_of_not_fits unfit
  have asked : database.mapsOf {id} = .error (.integrity (.idTooLarge value)) := by
    rw [Database.mapsOf, refused]
    rfl
  change Database.map database id = .ok map at found
  rw [Database.map, asked] at found
  cases found

end Success

namespace Mirrors

variable {store : Memory} {database : Database}

/-- After any call, the database mirrors some store again. -/
theorem exists_perform (mirrors : Mirrors (fun _ => True) store database) (operation : Operation) :
    ∃ after, Mirrors (fun _ => True) after (operation.perform Database.take database).2 := by
  cases operation with
  | ask question => exact ⟨store, mirrors⟩
  | change change =>
    simp only [Operation.perform]
    cases made : change.apply database with
    | error fault => exact ⟨store, mirrors⟩
    | ok result =>
      -- What the database has changed fits, so the store makes the same change.
      have agree := mirrors.apply_agree (change.fits_of_apply made)
      rw [made] at agree
      generalize change.apply store = left at agree
      cases agree with
      | ok same => exact ⟨_, same.2⟩
  | take snapshot =>
    simp only [Operation.perform]
    cases taken : Database.take snapshot database with
    | mk result after =>
      cases result with
      | error fault =>
        rw [Database.take_eq_error taken]
        exact ⟨store, mirrors⟩
      | ok summary =>
        obtain ⟨_, mirrored⟩ := mirrors.take_same (Snapshot.fits_of_take taken)
        rw [taken] at mirrored
        exact ⟨_, mirrored⟩

theorem exists_performAll (mirrors : Mirrors (fun _ => True) store database) (operations : List Operation) :
    ∃ after, Mirrors (fun _ => True) after (performAll Database.take operations database).2 := by
  induction operations generalizing store database with
  | nil => exact ⟨store, mirrors⟩
  | cons operation rest ih =>
    obtain ⟨after, mirrored⟩ := mirrors.exists_perform operation
    exact ih mirrored

end Mirrors

/-- The world holds what the database gives when it is asked. -/
structure Database.Keeps (database : Database) (world : World) : Prop where
  maps : ∀ map, map ∈ world.maps ↔ Store.map database map.id = .ok map
  triggers : ∀ trigger, trigger ∈ world.triggers ↔ Store.trigger database trigger.id = .ok trigger
  problems : ∀ query : ProblemQuery, query.triggers.FitsCells →
    ∃ answer, (Store.feeds database).problems query = .ok answer ∧
      ∀ problem, problem ∈ answer ↔ problem ∈ world.problems ∧ query.wants problem = true

namespace Mirrors

variable {admits : NetworkMap → Prop} {store : Memory} {database : Database}

theorem keeps (mirrors : Mirrors admits store database) : database.Keeps (store.world mirrors.mapsFiled) where
  maps map := by
    change map ∈ store.maps.values ↔ _
    rw [mem_values]
    constructor
    · rintro ⟨id, found⟩
      have given := mirrors.map_eq (mirrors.fits_of_found found)
      rw [← (mirrors.mapsFiled id map found).1] at found
      exact given.trans (Memory.map_eq_ok_iff.mpr found)
    · intro given
      exact ⟨map.id, Memory.map_eq_ok_iff.mp ((mirrors.map_eq (Database.fits_of_map given)).symm.trans given)⟩
  triggers trigger := by
    change trigger ∈ store.triggers.values ↔ _
    rw [mem_values]
    constructor
    · rintro ⟨id, found⟩
      have given := mirrors.trigger_eq (mirrors.triggersFit id trigger found).1
      rw [← mirrors.triggersFiled id trigger found] at found
      exact given.trans (Memory.trigger_eq_ok_iff.mpr found)
    · intro given
      have fits := (Database.has_of_trigger given).1
      exact ⟨trigger.id, Memory.trigger_eq_ok_iff.mp ((mirrors.trigger_eq fits).symm.trans given)⟩
  problems query fits := by
    obtain ⟨answer, given, order⟩ := mirrors.problemsOf_perm fits
    refine ⟨answer, ?_, fun problem => order.mem_iff.trans List.mem_filter⟩
    change (database.problemsOf query).mapError FeedFault.backend = _
    rw [given]
    rfl

end Mirrors

/-- A database that has gone through any calls draws a board if the maps that it leads to refer to what fits
into cells, and not to too much, with the counts of what the database keeps. Else it refuses: for an identifier that
does not fit, or because there is too much to ask for. -/
theorem view_after_calls (operations : List Operation) (user : Int) {request : Widget.Request}
    {setup : Widget.Setup} (given : Widget.Setup.ofFields request.fields = .ok setup)
    (linked : ∀ item ∈ setup.items, item.linked.FitsCell) :
    let database := (performAll Database.take operations (Store.empty : Database)).2
    ∃ world : World, database.Keeps world ∧
      ((∀ map, world.Known setup.tree map → map.RefersToCells) → world.Askable setup.tree →
        ∃ response tally, Widget.view database user request = .ok response ∧
          countProblems world.feeds setup.tree = .ok tally ∧
          response.problems = tally.buckets.toList ∧ response.accessible = tally.accessible) ∧
      (¬ ((∀ map, world.Known setup.tree map → map.RefersToCells) ∧ world.Askable setup.tree) →
        (∃ map, world.Known setup.tree map ∧ ¬ map.RefersToCells) ∧
          (∃ value : UInt64, Nat.pow 2 63 ≤ value.toNat ∧
            Widget.view database user request = .error (.feed (.backend (.integrity (.idTooLarge value))))) ∨
        ¬ world.Askable setup.tree ∧ Widget.view database user request = .error (.feed (.backend .database))) := by
  intro database
  obtain ⟨store, mirrors⟩ : ∃ store, Mirrors (fun _ => True) store database :=
    Mirrors.empty.exists_performAll operations
  clear_value database
  have follows := mirrors.countProblems_follows linked
  have config : Store.severityConfig database = .ok (store.config.getD .default) := mirrors.config
  refine ⟨store.world mirrors.mapsFiled, mirrors.keeps, fun refer askable => ?drawn, fun not_both => ?refused⟩
  case drawn =>
    obtain ⟨atlas, ledger, counted, _⟩ := exists_informed mirrors.answeredBy_feeds setup.items
    have kept : countProblems (store.world mirrors.mapsFiled).feeds setup.tree =
        countProblems (Store.feeds store) setup.tree :=
      countProblems_eq_of_answeredBy (World.answeredBy_feeds _) mirrors.answeredBy_feeds setup.items
    obtain ⟨response, drawn, same⟩ :=
      Widget.view_of_counted given config ((follows.eq refer askable).trans counted)
    exact ⟨response, _, drawn, kept.trans counted, same⟩
  case refused =>
    rcases follows.refused not_both with ⟨large, value, exceeds, refused⟩ | ⟨many, refused⟩
    · simp only [not_forall] at large
      obtain ⟨map, known, unfit⟩ := large
      exact .inl ⟨⟨map, known, unfit⟩, value, exceeds, Widget.view_of_count_error given config refused⟩
    · exact .inr ⟨many, Widget.view_of_count_error given config refused⟩

/-- A board of one item, linked to the first map. -/
def singleBoard : Widget.Request :=
  ⟨none, "a", 0, false, .ofList [("map.parent.1", Json.nat 0), ("mapid.1", Json.nat 1)]⟩

def singleSetup : Widget.Setup := ⟨[⟨⟨1⟩, "", .zero, ⟨1⟩, ∅⟩], false⟩

/-- A map that refers to a map, a host and a trigger that are nowhere. -/
def dangling : NetworkMap :=
  ⟨⟨1⟩, "", .notClassified, false, [⟨.map ⟨5⟩, .read⟩, ⟨.host ⟨7⟩, .read⟩], [⟨[⟨9⟩], .read⟩], ∅⟩

/-- What is nowhere counts for nothing. -/
theorem view_after_calls_dangling :
    let database := (performAll Database.take [.change (.insertMap dangling)] (Store.empty : Database)).2
    ∃ world : World, database.Keeps world ∧
      ∃ response tally, Widget.view database 1 singleBoard = .ok response ∧
        countProblems world.feeds singleSetup.tree = .ok tally ∧
        response.problems = tally.buckets.toList ∧ response.problems = [(⟨1⟩, .empty)] := by
  intro database
  obtain ⟨world, keeps, drawn, refused⟩ := view_after_calls [.change (.insertMap dangling)] 1
    (show Widget.Setup.ofFields singleBoard.fields = .ok singleSetup by decide +kernel) (by decide +kernel)
  have rendered : (Widget.view database 1 singleBoard).map Widget.Response.problems = .ok [(⟨1⟩, .empty)] := by
    decide +kernel
  have both : (∀ map, world.Known singleSetup.tree map → map.RefersToCells) ∧ world.Askable singleSetup.tree := by
    by_contra not_both
    rcases refused not_both with ⟨_, value, _, failed⟩ | ⟨_, failed⟩
    · rw [failed] at rendered
      cases rendered
    · rw [failed] at rendered
      cases rendered
  obtain ⟨response, tally, success, counted, same, _⟩ := drawn both.1 both.2
  rw [success] at rendered
  exact ⟨world, keeps, response, tally, success, counted, same, Except.ok.inj rendered⟩

/-- A map with a host that is too large for a cell. -/
def overreaching : NetworkMap :=
  ⟨⟨1⟩, "", .notClassified, false, [⟨.host ⟨9223372036854775808⟩, .read⟩], [], ∅⟩

/-- A database takes in the map, but then cannot draw the board; a store in memory can. -/
theorem view_after_calls_overreaching :
    let taken := performAll Database.take [.change (.insertMap overreaching)] (Store.empty : Database)
    let loaded := performAll Snapshot.load [.change (.insertMap overreaching)] (Store.empty : Memory)
    taken.1 = [.ok .done] ∧
      Widget.Setup.ofFields singleBoard.fields = .ok singleSetup ∧
      (∀ item ∈ singleSetup.items, item.linked.FitsCell) ∧
      Widget.view taken.2 1 singleBoard =
        .error (.feed (.backend (.integrity (.idTooLarge 9223372036854775808)))) ∧
      (Widget.view loaded.2 1 singleBoard).map Widget.Response.problems = .ok [(⟨1⟩, .empty)] := by
  decide +kernel

end ProblemBoard
