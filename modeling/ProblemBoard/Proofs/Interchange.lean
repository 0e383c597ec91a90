import ProblemBoard.Proofs.Loading
import ProblemBoard.Proofs.Mirroring
import ProblemBoard.Proofs.Rebuilding
import ProblemBoard.Proofs.Refusing

/-! # Stores can be exchanged for one another

A store in memory and a database that start out empty give the same outcomes to the same calls, as long as all
identifiers fit into signed cells and no question to the database names too much; only problems may be listed in
another order. The database mirrors the store in memory before and after each call. A question that names too much is
answered from memory and refused by the database.
-/

namespace ProblemBoard

open Navigation

section Fits

variable (admits : NetworkMap → Prop)

/-- Signed cells can keep the identifiers of the rows that the snapshot fills, and its maps are admitted. -/
def Snapshot.Fits (snapshot : Snapshot) : Prop :=
  (∀ map ∈ snapshot.maps, map.id.FitsCell ∧ admits { map with submaps := ∅ }) ∧
    (∀ trigger ∈ snapshot.triggers, trigger.FitsCells) ∧ ∀ problem ∈ snapshot.problems, problem.trigger.FitsCell

/-- Signed cells can keep the identifiers of the rows that the change touches, and a new map is admitted. -/
def Change.Fits : Change → Prop
  | .insertMap map => map.id.FitsCell ∧ admits { map with submaps := ∅ }
  | .deleteMap id => id.FitsCell
  | .insertTrigger trigger => trigger.FitsCells
  | .insertProblem problem => problem.trigger.FitsCell
  | _ => True

/-- Signed cells can keep the maps that are linked to the items of the board. -/
def Widget.Request.FitsCells (request : Request) : Prop :=
  ∀ setup, Setup.ofFields request.fields = .ok setup → ∀ item ∈ setup.items, item.linked.FitsCell

/-- Signed cells can keep all identifiers in the question. -/
def Question.FitsCells : Question → Prop
  | .map id => id.FitsCell
  | .maps ids => ids.FitsCells
  | .trigger id => id.FitsCell
  | .triggers query => query.FitsCells
  | .problems query => query.triggers.FitsCells
  | .check snapshot => snapshot.Fits NetworkMap.RefersToCells
  | .view _ request => request.FitsCells
  | _ => True

/-- Signed cells can keep all identifiers in the call, those that maps refer to included. -/
def Operation.FitsCells : Operation → Prop
  | .ask question => question.FitsCells
  | .change edit => edit.Fits NetworkMap.RefersToCells
  | .take snapshot => snapshot.Fits NetworkMap.RefersToCells

section Decidability

variable [DecidablePred admits]

instance (snapshot : Snapshot) : Decidable (snapshot.Fits admits) := inferInstanceAs (Decidable (_ ∧ _ ∧ _))

instance : (change : Change) → Decidable (change.Fits admits)
  | .insertMap map => inferInstanceAs (Decidable (map.id.FitsCell ∧ admits _))
  | .deleteMap id => inferInstanceAs (Decidable id.FitsCell)
  | .insertTrigger trigger => inferInstanceAs (Decidable trigger.FitsCells)
  | .insertProblem problem => inferInstanceAs (Decidable problem.trigger.FitsCell)
  | .acknowledge _ | .resolve _ | .setSeverityConfig _ | .setEntry .. | .deleteEntry .. | .setOpened ..
  | .setSelected .. => .isTrue trivial

instance (request : Widget.Request) : Decidable request.FitsCells :=
  match given : Widget.Setup.ofFields request.fields with
  | .ok setup => decidable_of_iff (∀ item ∈ setup.items, item.linked.FitsCell)
      ⟨fun fits other same => by
        rw [given] at same
        obtain rfl := Except.ok.inj same
        exact fits, fun fits => fits setup given⟩
  | .error _ => .isTrue fun setup same => by
      rw [given] at same
      cases same

instance : (question : Question) → Decidable question.FitsCells
  | .map id => inferInstanceAs (Decidable id.FitsCell)
  | .maps ids => inferInstanceAs (Decidable ids.FitsCells)
  | .trigger id => inferInstanceAs (Decidable id.FitsCell)
  | .triggers query => inferInstanceAs (Decidable query.FitsCells)
  | .problems query => inferInstanceAs (Decidable query.triggers.FitsCells)
  | .check snapshot => inferInstanceAs (Decidable (snapshot.Fits _))
  | .view _ request => inferInstanceAs (Decidable request.FitsCells)
  | .mapIds | .severityConfig | .entry .. | .entryNames .. | .opened .. | .selected .. => .isTrue trivial

instance : (operation : Operation) → Decidable operation.FitsCells
  | .ask question => inferInstanceAs (Decidable question.FitsCells)
  | .change edit => inferInstanceAs (Decidable (edit.Fits _))
  | .take snapshot => inferInstanceAs (Decidable (snapshot.Fits _))

end Decidability

end Fits

/-- One outcome, up to the order of problems. -/
inductive SameOutcome : Outcome → Outcome → Prop where
  | same (outcome : Outcome) : SameOutcome outcome outcome
  | problems {left right : List Problem} (order : left.Perm right) :
      SameOutcome (.ok (.problems left)) (.ok (.problems right))

/-- What lies behind the feeds of a store in memory. -/
def Memory.world (store : Memory) (filed : AllEntries (fun id map => map.id = id ∧ map.submaps = ∅) store.maps) :
    World where
  maps := store.maps.values
  triggers := store.triggers.values
  problems := store.problems.values
  distinct := by
    have keys : store.maps.values.map NetworkMap.id = store.maps.keys := by
      rw [values_eq_map_toList, ← Std.ExtTreeMap.map_fst_toList_eq_keys, List.map_map]
      refine List.map_congr_left fun entry member => ?_
      exact (filed _ _ (Std.ExtTreeMap.mem_toList_iff_getElem?_eq_some.mp member)).1
    rw [keys]
    exact Std.ExtTreeMap.nodup_keys

section Askable

variable (store : Memory)

/-- A database takes the question: it does not name too much, nor do the maps that a board leads to in the store. -/
def Question.Askable : Question → Prop
  | .triggers query => query.parameters ≤ parameterLimit
  | .view _ request => ∀ setup, Widget.Setup.ofFields request.fields = .ok setup →
      ∃ filed, (store.world filed).Askable setup.tree
  | _ => True

def Operation.Askable : Operation → Prop
  | .ask question => question.Askable store
  | _ => True

end Askable

/-- How a database refuses a question that is too large. -/
def Question.refusal : Question → Refusal
  | .view .. => .view (.feed (.backend .database))
  | _ => .feed (.backend .database)

theorem Question.answer_triggers_of_lt (database : Database) {query : TriggerQuery} (fits : query.FitsCells)
    (many : parameterLimit < query.parameters) :
    (triggers query).answer database = .error (.feed (.backend .database)) := by
  have given : (Store.feeds database).triggers query = .error (.backend .database) :=
    congrArg (Except.mapError FeedFault.backend) (database.triggersOf_of_lt fits many)
  rw [answer, given]
  rfl

section Views

variable {σ : Type} [Store σ] {store : σ} {user : Int} {request : Widget.Request} {setup : Widget.Setup}
  {config : SeverityConfig}

theorem Widget.view_of_counted {tally : Tally} (given : Setup.ofFields request.fields = .ok setup)
    (configured : Store.severityConfig store = .ok config)
    (counted : countProblems (Store.feeds store) setup.tree = .ok tally) :
    ∃ response, view store user request = .ok response ∧ response.problems = tally.buckets.toList ∧
      response.accessible = tally.accessible := by
  simp only [view, given, configured, counted, bind, Except.bind, mapError_ok]
  exact ⟨_, rfl, rfl, rfl⟩

theorem Widget.view_of_count_error {fault : FeedFault} (given : Setup.ofFields request.fields = .ok setup)
    (configured : Store.severityConfig store = .ok config)
    (refused : countProblems (Store.feeds store) setup.tree = .error fault) :
    view store user request = .error (.feed fault) := by
  simp only [view, given, configured, refused, bind, Except.bind, mapError_ok, mapError_error]

end Views

namespace Mirrors

variable {admits : NetworkMap → Prop} {store : Memory} {database : Database}

theorem answersFrom (mirrors : Mirrors admits store database) :
    AnswersFrom (store.world mirrors.mapsFiled).maps (Store.feeds store).maps := by
  intro ids
  refine ⟨store.mapsOf ids, rfl, fun map asked => ?_⟩
  change map ∈ ids.toList.filterMap (store.maps[·]?) ↔ map ∈ store.maps.values
  rw [List.mem_filterMap, mem_values]
  constructor
  · rintro ⟨id, _, found⟩
    exact ⟨id, found⟩
  · rintro ⟨id, found⟩
    obtain rfl := (mirrors.mapsFiled id map found).1
    exact ⟨map.id, Std.ExtTreeSet.mem_toList.mpr asked, found⟩

/-- The feeds of the store in memory, with the problems in the order of the database. -/
def mixedFeeds (store : Memory) (database : Database) : Feeds (Except FeedFault) :=
  { Store.feeds store with
    problems := fun query =>
      if query.triggers.FitsCells then (Store.feeds database).problems query
      else (Store.feeds store).problems query }

theorem followOnCells (mirrors : Mirrors admits store database) :
    FollowOnCells (Store.feeds database) (mixedFeeds store database) where
  maps ids := by
    change Follows _ _ _ ((database.mapsOf ids).mapError FeedFault.backend)
    by_cases fits : ids.FitsCells
    · rw [mirrors.mapsOf_eq fits]
      exact .same fits trivial
    · obtain ⟨value, large, refused⟩ := database.mapsOf_of_not_fits fits
      rw [refused]
      exact .unfit fits value large
  triggers query := by
    change Follows _ _ _ ((database.triggersOf query).mapError FeedFault.backend)
    by_cases fits : query.FitsCells
    · by_cases askable : query.parameters ≤ parameterLimit
      · rw [mirrors.triggersOf_eq fits askable]
        exact .same fits askable
      · rw [database.triggersOf_of_lt fits (Nat.lt_of_not_le askable)]
        exact .tooMany askable
    · obtain ⟨value, large, refused⟩ := database.triggersOf_of_not_fits fits
      rw [refused]
      exact .unfit fits value large
  problems query := by
    change Follows _ _ (if query.triggers.FitsCells then _ else _) _
    by_cases fits : query.triggers.FitsCells
    · rw [if_pos fits]
      exact .same fits trivial
    · obtain ⟨value, large, refused⟩ := database.problemsOf_of_not_fits fits
      change Follows _ _ _ ((database.problemsOf query).mapError FeedFault.backend)
      rw [refused]
      exact .unfit fits value large

theorem answeredBy_feeds (mirrors : Mirrors admits store database) :
    (store.world mirrors.mapsFiled).AnsweredBy (Store.feeds store) where
  maps := mirrors.answersFrom
  triggers query := ⟨store.triggersOf query, rfl, fun _ => List.mem_filter⟩
  problems query := ⟨store.problemsOf query, rfl, fun _ => List.mem_filter⟩

theorem answeredBy_mixedFeeds (mirrors : Mirrors admits store database) :
    (store.world mirrors.mapsFiled).AnsweredBy (mixedFeeds store database) where
  maps := mirrors.answersFrom
  triggers query := ⟨store.triggersOf query, rfl, fun _ => List.mem_filter⟩
  problems query := by
    by_cases fits : query.triggers.FitsCells
    · obtain ⟨answer, given, order⟩ := mirrors.problemsOf_perm fits
      refine ⟨answer, ?_, fun problem => order.mem_iff.trans List.mem_filter⟩
      change (if query.triggers.FitsCells then (database.problemsOf query).mapError FeedFault.backend else _) = _
      rw [if_pos fits, given]
      rfl
    · exact ⟨store.problemsOf query, if_neg fits, fun _ => List.mem_filter⟩

/-- Counting the problems of a tree with linked maps that fit is refused by the database just where a known
map refers to something that does not, or where the known maps refer to too much. -/
theorem countProblems_follows (mirrors : Mirrors admits store database) {items : List Item}
    (linked : ∀ item ∈ items, item.linked.FitsCell) :
    Follows (∀ map, (store.world mirrors.mapsFiled).Known (Tree.ofItems items) map → map.RefersToCells)
      ((store.world mirrors.mapsFiled).Askable (Tree.ofItems items))
      (countProblems (Store.feeds store) (Tree.ofItems items))
      (countProblems (Store.feeds database) (Tree.ofItems items)) := by
  have tree_linked (item : Item) (member : item ∈ (Tree.ofItems items).items) : item.linked.FitsCell := by
    obtain ⟨key, found⟩ := Tree.mem_items_iff.mp member
    obtain ⟨last, listed, same, _⟩ := Tree.exists_last_of_get? found
    rw [same]
    exact linked last (List.mem_filter.mp (List.mem_of_getLast? listed)).1
  have stored (trigger : Trigger) (member : trigger ∈ store.triggers.values) : trigger.id.FitsCell := by
    obtain ⟨id, found⟩ := mem_values.mp member
    exact (mirrors.triggersFit id trigger found).1
  -- Counts do not depend on the order of problems, so it may be that of the database.
  rw [← countProblems_eq_of_answeredBy mirrors.answeredBy_mixedFeeds mirrors.answeredBy_feeds items]
  exact mirrors.followOnCells.countProblems_follows mirrors.answeredBy_mixedFeeds stored
    (Tree.repaired_ofItems items) tree_linked

section Profiles

variable (mirrors : Mirrors admits store database) (user widget : Int)

include mirrors

theorem entry_eq (name : String) :
    ProfileStore.get? database user widget name = ProfileStore.get? store user widget name := by
  rw [Database.keepsIn_profile.get?, Memory.keepsIn_profile.get?, mirrors.profile]

theorem entryNames_eq (front back : String) :
    ProfileStore.find database user widget front back = ProfileStore.find store user widget front back := by
  rw [Database.keepsIn_profile.find, Memory.keepsIn_profile.find, mirrors.profile]

theorem opened_eq : ProfileStore.opened database user widget = ProfileStore.opened store user widget := by
  rw [Database.keepsIn_profile.opened_eq, Memory.keepsIn_profile.opened_eq, mirrors.profile]

theorem selected_eq : ProfileStore.selected database user widget = ProfileStore.selected store user widget := by
  rw [Database.keepsIn_profile.selected_eq, Memory.keepsIn_profile.selected_eq, mirrors.profile]

end Profiles

/-- A board is drawn alike if its problems are counted alike. -/
theorem view_eq (mirrors : Mirrors admits store database) (user : Int) {request : Widget.Request}
    (alike : ∀ setup, Widget.Setup.ofFields request.fields = .ok setup →
      countProblems (Store.feeds database) setup.tree = countProblems (Store.feeds store) setup.tree) :
    Widget.view database user request = Widget.view store user request := by
  rw [Widget.view, Widget.view]
  cases given : Widget.Setup.ofFields request.fields with
  | error fault => rfl
  | ok setup =>
    have config : Store.severityConfig database = Store.severityConfig store := mirrors.config
    simp only [bind, Except.bind, config, alike setup given, Widget.userState, mirrors.opened_eq, mirrors.selected_eq]

/-- All known maps are admitted. -/
theorem refersToCells_of_known (mirrors : Mirrors NetworkMap.RefersToCells store database) {tree : Tree}
    (map : NetworkMap) (known : (store.world mirrors.mapsFiled).Known tree map) : map.RefersToCells := by
  obtain ⟨id, found⟩ := mem_values.mp known.1
  exact mirrors.mapsAdmitted id map found

section Calls

theorem storeTrigger_eq (mirrors : Mirrors admits store database) {id : TriggerId} (fits : id.FitsCell) :
    Store.trigger database id = Store.trigger store id :=
  mirrors.trigger_eq fits

/-- A snapshot is checked alike. -/
theorem check_eq (mirrors : Mirrors admits store database) {snapshot : Snapshot} (fits : snapshot.Fits admits) :
    snapshot.check database = snapshot.check store := by
  have each (problem : Problem) (member : problem ∈ snapshot.problems) :
      snapshot.checkProblem database problem = snapshot.checkProblem store problem := by
    rw [Snapshot.checkProblem, Snapshot.checkProblem, mirrors.storeTrigger_eq (fits.2.2 problem member)]
  rw [Snapshot.check_eq, Snapshot.check_eq, forM_congr each]

/-- A snapshot is inserted alike. -/
theorem insertInto_agree (mirrors : Mirrors admits store database) {snapshot : Snapshot}
    (fits : snapshot.Fits admits) :
    Agree (Mirrors admits) (snapshot.insertInto store) (snapshot.insertInto database) := by
  refine Agree.bind
    (Agree.foldlM (fun map member _ _ same => same.insertMap (fits.1 map member).1 (fits.1 map member).2) mirrors)
    fun _ _ mapped => Agree.bind (Agree.foldlM (fun trigger member left right same => ?_) mapped)
    fun _ _ triggered => Agree.bind (Agree.foldlM (fun problem member left right same => ?_) triggered)
    fun left right filled => ?_
  · obtain ⟨changed, written, mirrored⟩ := same.insertTrigger (fits.2.1 trigger member)
    change Agree (Mirrors admits) (.ok (left.insertTrigger trigger)) (right.insertTrigger trigger)
    rw [written]
    exact .ok mirrored
  · exact (same.insertProblem (fits.2.2 problem member)).map fun _ _ => And.left
  · cases snapshot.config with
    | none => exact .ok filled
    | some config => exact .ok (filled.setSeverityConfig config)

/-- A question that is not too large is answered alike, up to the order of problems. -/
theorem answer_same (mirrors : Mirrors NetworkMap.RefersToCells store database) {question : Question}
    (fits : question.FitsCells) (askable : question.Askable store) :
    SameOutcome (question.answer store) (question.answer database) := by
  have of_eq {left right : Outcome} (same : right = left) : SameOutcome left right := same ▸ .same left
  cases question with
  | map id =>
    have found : Store.map database id = Store.map store id := mirrors.map_eq fits
    exact of_eq (by simp only [Question.answer, found])
  | mapIds =>
    have listed : Store.mapIds database = Store.mapIds store := mirrors.mapIds_eq
    exact of_eq (by simp only [Question.answer, listed])
  | maps ids =>
    have given : (Store.feeds database).maps ids = (Store.feeds store).maps ids :=
      (mirrors.followOnCells.maps ids).eq fits trivial
    exact of_eq (by simp only [Question.answer, given])
  | trigger id => exact of_eq (by simp only [Question.answer, mirrors.storeTrigger_eq fits])
  | triggers query =>
    have given : (Store.feeds database).triggers query = (Store.feeds store).triggers query :=
      (mirrors.followOnCells.triggers query).eq fits askable
    exact of_eq (by simp only [Question.answer, given])
  | problems query =>
    obtain ⟨answer, given, order⟩ := mirrors.problemsOf_perm fits
    have answered : (Store.feeds database).problems query = .ok answer := by
      change (database.problemsOf query).mapError FeedFault.backend = _
      rw [given]
      rfl
    have here : (Question.problems query).answer store = .ok (.problems (store.problemsOf query)) := rfl
    have there : (Question.problems query).answer database = .ok (.problems answer) := by
      rw [Question.answer, answered]
      rfl
    rw [here, there]
    exact .problems order.symm
  | severityConfig =>
    have config : Store.severityConfig database = Store.severityConfig store := mirrors.config
    exact of_eq (by simp only [Question.answer, config])
  | check snapshot => exact of_eq (by simp only [Question.answer, mirrors.check_eq fits])
  | entry user widget name => exact of_eq (by simp only [Question.answer, mirrors.entry_eq])
  | entryNames user widget front back => exact of_eq (by simp only [Question.answer, mirrors.entryNames_eq])
  | opened user widget => exact of_eq (by simp only [Question.answer, mirrors.opened_eq])
  | selected user widget => exact of_eq (by simp only [Question.answer, mirrors.selected_eq])
  | view user request =>
    have drawn : Widget.view database user request = Widget.view store user request := by
      refine mirrors.view_eq user fun setup given => ?_
      obtain ⟨_, few⟩ := askable setup given
      exact (mirrors.countProblems_follows (fits setup given)).eq mirrors.refersToCells_of_known few
    exact of_eq (by simp only [Question.answer, drawn])

/-- A question that is too large is answered from memory, and refused by the database. -/
theorem answer_refused (mirrors : Mirrors NetworkMap.RefersToCells store database) {question : Question}
    (fits : question.FitsCells) (many : ¬ question.Askable store) :
    (∃ answer, question.answer store = .ok answer) ∧ question.answer database = .error question.refusal := by
  cases question with
  | triggers query => exact ⟨⟨_, rfl⟩, Question.answer_triggers_of_lt database fits (Nat.lt_of_not_le many)⟩
  | view user request =>
    simp only [Question.Askable, not_forall] at many
    obtain ⟨setup, given, tooMany⟩ := many
    have config : Store.severityConfig database = .ok (store.config.getD .default) := mirrors.config
    obtain ⟨atlas, ledger, counted, _⟩ := exists_informed mirrors.answeredBy_feeds setup.items
    obtain ⟨response, drawn, _⟩ : ∃ response, Widget.view store user request = .ok response ∧ _ :=
      Widget.view_of_counted given rfl counted
    have refused := (mirrors.countProblems_follows (fits setup given)).eq_tooMany mirrors.refersToCells_of_known
      fun few => tooMany ⟨mirrors.mapsFiled, few⟩
    refine ⟨⟨.view response, ?_⟩, ?_⟩
    · rw [Question.answer, drawn]
      rfl
    · rw [Question.answer, Widget.view_of_count_error given config refused]
      rfl
  | map | mapIds | maps | trigger | problems | severityConfig | check | entry | entryNames | opened | selected =>
    exact absurd trivial many

/-- A change is made by both, with one answer, or refused by both for one reason. -/
theorem apply_agree (mirrors : Mirrors admits store database) {change : Change} (fits : change.Fits admits) :
    Agree (fun left right => left.1 = right.1 ∧ Mirrors admits left.2 right.2) (change.apply store)
      (change.apply database) := by
  cases change with
  | insertMap map => exact (mirrors.insertMap fits.1 fits.2).map fun _ _ mirrored => ⟨rfl, mirrored⟩
  | deleteMap id => exact (mirrors.deleteMap fits).map fun _ _ mirrored => ⟨rfl, mirrored⟩
  | insertTrigger trigger =>
    obtain ⟨changed, written, mirrored⟩ := mirrors.insertTrigger fits
    have there : (Change.insertTrigger trigger).apply database = .ok (.done, changed) :=
      congrArg (Except.map (Answer.done, ·)) written
    rw [there]
    exact .ok ⟨rfl, mirrored⟩
  | insertProblem problem =>
    exact (mirrors.insertProblem fits).map fun _ _ same => ⟨congrArg Answer.problem same.2, same.1⟩
  | acknowledge problem => exact (mirrors.acknowledge problem).map fun _ _ mirrored => ⟨rfl, mirrored⟩
  | resolve problem => exact (mirrors.resolve problem).map fun _ _ mirrored => ⟨rfl, mirrored⟩
  | setSeverityConfig config => exact .ok ⟨rfl, mirrors.setSeverityConfig config⟩
  | setEntry user widget name value => exact .ok ⟨rfl, mirrors.setEntry user widget name value⟩
  | deleteEntry user widget name => exact .ok ⟨rfl, mirrors.deleteEntry user widget name⟩
  | setOpened user widget item isOpen =>
    cases isOpen
    · exact .ok ⟨rfl, mirrors.deleteEntry user widget _⟩
    · exact .ok ⟨rfl, mirrors.setEntry user widget _ _⟩
  | setSelected user widget item => exact .ok ⟨rfl, mirrors.setEntry user widget _ _⟩

/-- A snapshot is taken in by both or refused by both. -/
theorem take_same (mirrors : Mirrors admits store database) {snapshot : Snapshot} (fits : snapshot.Fits admits) :
    (snapshot.load store).1 = (Database.take snapshot database).1 ∧
      Mirrors admits (snapshot.load store).2 (Database.take snapshot database).2 := by
  have checked := mirrors.check_eq fits
  cases passed : snapshot.check store with
  | error fault =>
    rw [passed] at checked
    rw [Snapshot.load_of_check_error passed, Database.take_of_check_error checked]
    exact ⟨rfl, mirrors⟩
  | ok =>
    rw [passed] at checked
    obtain ⟨after, inserted⟩ := Memory.insertInto_of_check passed
    have agree := mirrors.insertInto_agree fits
    rw [inserted] at agree
    cases there : snapshot.insertInto database with
    | error fault =>
      rw [there] at agree
      cases agree
    | ok loaded =>
      rw [there] at agree
      cases agree with
      | ok mirrored =>
        rw [Snapshot.load_of_insertInto passed inserted, Database.take_eq_ok_iff.mpr ⟨checked, rfl, there⟩]
        exact ⟨rfl, mirrored⟩

/-- A call that is not too large has one outcome. -/
theorem perform_same (mirrors : Mirrors NetworkMap.RefersToCells store database) {operation : Operation}
    (fits : operation.FitsCells) (askable : operation.Askable store) :
    SameOutcome (operation.perform Snapshot.load store).1 (operation.perform Database.take database).1 := by
  cases operation with
  | ask question => exact mirrors.answer_same fits askable
  | change change =>
    have agree := mirrors.apply_agree fits
    simp only [Operation.perform]
    generalize change.apply store = left at agree ⊢
    generalize change.apply database = right at agree ⊢
    cases agree with
    | error fault => exact .same _
    | @ok left right same =>
      obtain ⟨answer, changed⟩ := left
      obtain ⟨sameAnswer, mirrored⟩ := right
      obtain ⟨rfl, _⟩ := same
      exact .same _
  | take snapshot =>
    simp only [Operation.perform]
    rw [(mirrors.take_same fits).1]
    exact .same _

/-- After any call, the database mirrors the store again. -/
theorem after_perform (mirrors : Mirrors NetworkMap.RefersToCells store database) {operation : Operation}
    (fits : operation.FitsCells) :
    Mirrors NetworkMap.RefersToCells (operation.perform Snapshot.load store).2
      (operation.perform Database.take database).2 := by
  cases operation with
  | ask question => exact mirrors
  | change change =>
    have agree := mirrors.apply_agree fits
    simp only [Operation.perform]
    generalize change.apply store = left at agree ⊢
    generalize change.apply database = right at agree ⊢
    cases agree with
    | error fault => exact mirrors
    | ok same => exact same.2
  | take snapshot => exact (mirrors.take_same fits).2

theorem after_performAll (mirrors : Mirrors NetworkMap.RefersToCells store database) {operations : List Operation}
    (fits : ∀ operation ∈ operations, operation.FitsCells) :
    Mirrors NetworkMap.RefersToCells (performAll Snapshot.load operations store).2
      (performAll Database.take operations database).2 := by
  induction operations generalizing store database with
  | nil => exact mirrors
  | cons operation rest ih =>
    rw [List.forall_mem_cons] at fits
    exact ih (mirrors.after_perform fits.1) fits.2

end Calls

end Mirrors

/-- After any calls on a store in memory and on a database that start out empty, all with identifiers that fit into
signed cells, one more such call has one outcome on both; only problems may be listed in another order. A question that
is too large is the exception: it is answered from memory, and refused by the database. -/
theorem stores_interchangeable (operations : List Operation) (operation : Operation)
    (fits : ∀ each ∈ operation :: operations, each.FitsCells) :
    let store := (performAll Snapshot.load operations (Store.empty : Memory)).2
    let database := (performAll Database.take operations (Store.empty : Database)).2
    (operation.Askable store →
      SameOutcome (operation.perform Snapshot.load store).1 (operation.perform Database.take database).1) ∧
    (¬ operation.Askable store → ∃ question, operation = .ask question ∧
      (∃ answer, question.answer store = .ok answer) ∧ question.answer database = .error question.refusal) := by
  intro store database
  rw [List.forall_mem_cons] at fits
  have mirrors : Mirrors NetworkMap.RefersToCells store database := Mirrors.empty.after_performAll fits.2
  refine ⟨fun askable => mirrors.perform_same fits.1 askable, fun many => ?_⟩
  cases operation with
  | ask question => exact ⟨question, rfl, mirrors.answer_refused fits.1 many⟩
  | change | take => exact absurd trivial many

/-- A map that embeds itself and links a trigger; the trigger and a problem; a snapshot with a problem of a
trigger that is nowhere; and a map to be deleted that is not there. -/
def mixedCalls : List Operation := [
  .change (.insertMap ⟨⟨1⟩, "", .warning, false, [⟨.map ⟨1⟩, .read⟩], [⟨[⟨7⟩], .read⟩], ∅⟩),
  .change (.insertTrigger ⟨⟨7⟩, .high, {⟨3⟩}, ∅, false⟩),
  .change (.insertProblem ⟨⟨7⟩, .high, false⟩),
  .take ⟨[], [⟨⟨9⟩, .high, ∅, ∅, false⟩], [⟨⟨9⟩, .average, true⟩, ⟨⟨8⟩, .high, false⟩], none⟩,
  .change (.acknowledge 1),
  .ask (.problems ⟨{⟨9⟩, ⟨7⟩}, .notClassified⟩),
  .change (.deleteMap ⟨2⟩)]

/-- The board that shows the map. -/
def mixedView : Question :=
  .view 1 ⟨none, "a", 0, false, .ofList [("map.parent.1", Json.nat 0), ("mapid.1", Json.nat 1)]⟩

/-- After the calls, some of which fail, the board is drawn alike. -/
theorem stores_interchangeable_mixed :
    let store := performAll Snapshot.load mixedCalls (Store.empty : Memory)
    let database := performAll Database.take mixedCalls (Store.empty : Database)
    store.1.map Except.toBool = [true, true, true, false, true, true, false] ∧
      mixedView.Askable store.2 ∧ (mixedView.answer store.2).toBool = true ∧
      SameOutcome (mixedView.answer store.2) (mixedView.answer database.2) := by
  intro store database
  obtain ⟨same, refused⟩ := stores_interchangeable mixedCalls (.ask mixedView) (by decide +kernel)
  have drawn : (mixedView.answer database.2).toBool = true := by decide +kernel
  have askable : mixedView.Askable store.2 := by
    by_contra many
    obtain ⟨question, asked, _, failed⟩ := refused many
    obtain rfl := Operation.ask.inj asked
    rw [failed] at drawn
    cases drawn
  exact ⟨by decide +kernel, askable, by decide +kernel, same askable⟩

/-- The hosts from one up to a number. -/
def hostsUpTo (last : Nat) : IdSet .host :=
  .ofList ((List.range last).map fun number => Ident.mk (.ofNat (number + 1))) compare

section HostsUpTo

variable {last : Nat}

theorem size_hostsUpTo (bounded : last < UInt64.size) : (hostsUpTo last).size = last := by
  have distinct : ((List.range last).map fun number => (Ident.mk (.ofNat (number + 1)) : HostId)).Pairwise
      fun front back => ¬ compare front back = .eq := by
    rw [List.pairwise_map]
    refine List.pairwise_lt_range.imp_of_mem fun {front back} _ there less same => ?_
    have numbers := congrArg Ident.toNat (Std.compare_eq_iff_eq.mp same)
    rw [List.mem_range] at there
    simp only [Ident.toNat, UInt64.toNat_ofNat', UInt64.size] at numbers bounded
    omega
  rw [hostsUpTo, Std.ExtTreeSet.size_ofList distinct, List.length_map, List.length_range]

theorem fitsCells_hostsUpTo (bounded : last < Nat.pow 2 63) : (hostsUpTo last).FitsCells := by
  intro id member
  simp only [hostsUpTo, Std.ExtTreeSet.mem_toList, Std.ExtTreeSet.mem_ofList, List.contains_iff_mem, List.mem_map,
    List.mem_range] at member
  obtain ⟨number, below, rfl⟩ := member
  simp only [Ident.FitsCell, Ident.toNat, UInt64.toNat_ofNat'] at bounded ⊢
  omega

end HostsUpTo

/-- A question for the triggers of 32766 hosts, asked of stores with nothing in them: one answers that there are none,
the other refuses. -/
theorem stores_interchangeable_crowded :
    let operation : Operation := .ask (.triggers ⟨∅, hostsUpTo 32766, ∅, .notClassified, false⟩)
    operation.FitsCells ∧
      (operation.perform Snapshot.load (Store.empty : Memory)).1 = .ok (.triggers []) ∧
      (operation.perform Database.take (Store.empty : Database)).1 = .error (.feed (.backend .database)) := by
  intro operation
  have outcomes (query : TriggerQuery) (fits : query.FitsCells) (many : parameterLimit < query.parameters) :
      (Operation.perform Snapshot.load (.ask (.triggers query)) (Store.empty : Memory)).1 = .ok (.triggers []) ∧
      (Operation.perform Database.take (.ask (.triggers query)) (Store.empty : Database)).1 =
        .error (.feed (.backend .database)) :=
    ⟨rfl, Question.answer_triggers_of_lt _ fits many⟩
  have fits : TriggerQuery.FitsCells ⟨∅, hostsUpTo 32766, ∅, .notClassified, false⟩ :=
    ⟨IdSet.fitsCells_empty, fitsCells_hostsUpTo (by decide), IdSet.fitsCells_empty⟩
  have many : parameterLimit < TriggerQuery.parameters ⟨∅, hostsUpTo 32766, ∅, .notClassified, false⟩ := by
    rw [TriggerQuery.parameters, size_hostsUpTo (by decide)]
    decide
  exact ⟨fits, outcomes _ fits many⟩

end ProblemBoard
