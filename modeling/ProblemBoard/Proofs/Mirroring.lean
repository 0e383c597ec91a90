import ProblemBoard.Proofs.Cells
import ProblemBoard.Proofs.Gathering
import ProblemBoard.Proofs.Profiles

/-! # A database that mirrors a store in memory

A database mirrors a store in memory if its tables keep what the store keeps. Both then answer every
query alike, as long as all identifiers fit into signed cells; only problems may come in another
order. Every write keeps the database a mirror, or is refused by both for the same reason.
-/

namespace ProblemBoard

/-- The trigger with other hosts and groups. -/
def Trigger.withOwners (trigger : Trigger) (hosts : List HostId) (groups : List GroupId) : Trigger :=
  { trigger with hosts := .ofList hosts, groups := .ofList groups }

/-- The database keeps what the store keeps. Every map and every trigger of the store is filed under its
own identifier, and maps stand without the maps nested in them. All maps are admitted; all identifiers
outside of maps fit into signed cells. -/
structure Mirrors (admits : NetworkMap → Prop) (store : Memory) (database : Database) : Prop where
  mapsFiled : AllEntries (fun id map => map.id = id ∧ map.submaps = ∅) store.maps
  mapsAdmitted : AllEntries (fun _ map => admits map) store.maps
  triggersFiled : AllEntries (fun id trigger => trigger.id = id) store.triggers
  triggersFit : AllEntries (fun _ trigger => trigger.FitsCells) store.triggers
  problemsFit : AllEntries (fun _ problem => problem.trigger.FitsCell) store.problems
  maps : Tabulates Database.rowOfMap store.maps database.maps
  triggers : Tabulates Trigger.row store.triggers database.triggers
  problems : database.problems = store.problems.map fun _ => Problem.row
  numbers : database.lastProblem + 1 = store.nextProblem
  config : database.severityConfig = .ok (store.config.getD .default)
  profile : database.profile = store.profile

namespace Database

/-- The row of a map reads back as the map, without the maps nested in it. -/
theorem mapOfRow_rowOfMap {map : NetworkMap} (fits : map.id.FitsCell) :
    mapOfRow map.id.number (rowOfMap map) = .ok { map with submaps := ∅ } := by
  have elements : (Decoder.list Element.decoder).run (rowOfMap map).elements = .ok map.elements := by
    rw [rowOfMap, Decoder.run_compact]
    · exact Decoder.list_toNode fun element _ => Element.decoder_toNode (by decide) element
    · simp [Element.whole_toJson]
  have links : (Decoder.list Link.fields.decoder).run (rowOfMap map).links = .ok map.links := by
    rw [rowOfMap, Decoder.run_compact]
    · exact Decoder.list_toNode fun link _ => Link.decoder_toNode 1 link
    · simp [Link.whole_toJson]
  have id : ident map.id.number = .ok map.id := by
    rw [ident, Ident.toIdent_number fits]
    rfl
  have flag : ((rowOfMap map).unacknowledged != 0) = map.unacknowledgedOnly := by
    cases given : map.unacknowledgedOnly <;> simp [rowOfMap, given]
  have severity : Cell.toSeverity (rowOfMap map).severity = .ok map.severityFloor :=
    Cell.toSeverity_level map.severityFloor
  rw [mapOfRow, elements, links, id, severity, flag]
  rfl

/-- The rows of some triggers read back: what is in the rows themselves, then the hosts, then the groups. -/
theorem read_triggers {triggers : List Trigger} (fits : ∀ trigger ∈ triggers, trigger.FitsCells) :
    (do
      let rows := triggers.map fun trigger => (trigger.id.number, trigger.row)
      let bare ← rows.mapM fun (key, row) => do
        let id ← ident key
        let severity ← Cell.toSeverity row.severity
        pure (fun hosts groups =>
          Trigger.mk id severity (.ofList hosts) (.ofList groups) row.suppressed)
      let hosts ← rows.mapM fun (_, row) => row.hosts.toList.mapM ident
      let groups ← rows.mapM fun (_, row) => row.groups.toList.mapM ident
      pure (List.zipWith (· ·) (List.zipWith (· ·) bare hosts) groups)) =
      (.ok triggers : Except StoreFault (List Trigger)) := by
  have bare (trigger : Trigger) (member : trigger ∈ triggers) : (do
      let id ← ident trigger.id.number
      let severity ← Cell.toSeverity trigger.row.severity
      pure (fun hosts groups =>
        Trigger.mk id severity (.ofList hosts) (.ofList groups) trigger.row.suppressed)) =
      (.ok trigger.withOwners : Except StoreFault (List HostId → List GroupId → Trigger)) := by
    have id : ident trigger.id.number = .ok trigger.id := by
      rw [ident, Ident.toIdent_number (fits trigger member).1]
      rfl
    have severity : Cell.toSeverity trigger.row.severity = .ok trigger.severity :=
      Cell.toSeverity_level trigger.severity
    rw [id, severity]
    rfl
  have hosts (trigger : Trigger) (member : trigger ∈ triggers) :
      trigger.row.hosts.toList.mapM ident = .ok trigger.hosts.toList := by
    rw [Trigger.row, rowOfTrigger, IdSet.toList_ofList_numbers,
      IdSet.mapM_ident_numbers (fits trigger member).2.1]
  have groups (trigger : Trigger) (member : trigger ∈ triggers) :
      trigger.row.groups.toList.mapM ident = .ok trigger.groups.toList := by
    rw [Trigger.row, rowOfTrigger, IdSet.toList_ofList_numbers,
      IdSet.mapM_ident_numbers (fits trigger member).2.2]
  have whole (trigger : Trigger) :
      trigger.withOwners trigger.hosts.toList trigger.groups.toList = trigger := by
    rw [Trigger.withOwners, IdSet.ofList_toList, IdSet.ofList_toList]
  simp only [List.mapM_map, Function.comp_def]
  rw [mapM_eq_ok bare, mapM_eq_ok hosts, mapM_eq_ok groups]
  change Except.ok (List.zipWith _ (List.zipWith _ _ _) _) = _
  simp only [List.zipWith_map, List.zipWith_self, whole, List.map_id']

theorem problemOfRow_row {problem : Problem} (fits : problem.trigger.FitsCell) :
    problemOfRow problem.row = .ok problem := by
  have trigger : ident problem.row.trigger = .ok problem.trigger := by
    rw [ident, Problem.row, Ident.toIdent_number fits]
    rfl
  have severity : Cell.toSeverity problem.row.severity = .ok problem.severity :=
    Cell.toSeverity_level problem.severity
  rw [problemOfRow, trigger, severity]
  rfl

/-- A configuration that was kept is read back, whatever was there before. -/
theorem severityConfig_setSeverityConfig (database : Database) (config : SeverityConfig) :
    (database.setSeverityConfig config).severityConfig = .ok config := by
  let entries := config.toList.map fun entry => ((entry.1.level : Int), entry.2)
  let readStyle (entry : Int × Style) : Except StoreFault (Severity × Style) := do
    pure (← Cell.toSeverity entry.1, entry.2)
  have listed : (database.setSeverityConfig config).styles.toList = entries := by rfl
  have read (entry : Severity × Style) (_ : entry ∈ config.toList) :
      readStyle (entry.1.level, entry.2) = .ok entry := by
    change (do pure (← Cell.toSeverity entry.1.level, entry.2)) = _
    rw [Cell.toSeverity_level]
    rfl
  have styles : entries.mapM readStyle = .ok config.toList := by
    rw [List.mapM_map]
    exact (mapM_eq_ok read).trans (congrArg _ (List.map_id' _))
  rw [severityConfig, listed]
  change (entries.mapM readStyle >>= _) = _
  rw [styles]
  exact congrArg _ (SeverityConfig.ofStyles_toList config)

end Database

/-- Both succeed, in related ways, or both fail with one fault. -/
inductive Agree {ε α β : Type} (related : α → β → Prop) : Except ε α → Except ε β → Prop where
  | ok {left : α} {right : β} (same : related left right) : Agree related (.ok left) (.ok right)
  | error (fault : ε) : Agree related (.error fault) (.error fault)

namespace Agree

variable {ε α β γ δ : Type} {related : α → β → Prop} {then_related : γ → δ → Prop}

theorem bind {first : Except ε α} {other : Except ε β} {next : α → Except ε γ} {otherNext : β → Except ε δ}
    (agree : Agree related first other)
    (each : ∀ left right, related left right → Agree then_related (next left) (otherNext right)) :
    Agree then_related (first >>= next) (other >>= otherNext) := by
  cases agree with
  | ok same => exact each _ _ same
  | error fault => exact .error fault

theorem map {first : Except ε α} {other : Except ε β} {change : α → γ} {otherChange : β → δ}
    (agree : Agree related first other)
    (each : ∀ left right, related left right → then_related (change left) (otherChange right)) :
    Agree then_related (first.map change) (other.map otherChange) := by
  cases agree with
  | ok same => exact .ok (each _ _ same)
  | error fault => exact .error fault

theorem mapError {φ : Type} {first : Except ε α} {other : Except ε β} (agree : Agree related first other)
    (change : ε → φ) : Agree related (first.mapError change) (other.mapError change) := by
  cases agree with
  | ok same => exact .ok same
  | error fault => exact .error (change fault)

/-- One result changed in two ways. -/
theorem map_map {first : Except ε γ} {change : γ → α} {otherChange : γ → β}
    (each : ∀ value, related (change value) (otherChange value)) :
    Agree related (first.map change) (first.map otherChange) := by
  cases first with
  | ok value => exact .ok (each value)
  | error fault => exact .error fault

theorem exists_right {first : Except ε α} {other : Except ε β} (agree : Agree related first other) {left : α}
    (success : first = .ok left) : ∃ right, other = .ok right ∧ related left right := by
  cases agree with
  | ok same => exact ⟨_, rfl, Except.ok.inj success ▸ same⟩
  | error fault => cases success

theorem exists_left {first : Except ε α} {other : Except ε β} (agree : Agree related first other) {right : β}
    (success : other = .ok right) : ∃ left, first = .ok left ∧ related left right := by
  cases agree with
  | ok same => exact ⟨_, rfl, Except.ok.inj success ▸ same⟩
  | error fault => cases success

/-- Loops agree if their steps do. -/
theorem foldlM {step : α → γ → Except ε α} {otherStep : β → γ → Except ε β} {values : List γ}
    (each : ∀ value ∈ values, ∀ left right, related left right →
      Agree related (step left value) (otherStep right value)) {left : α} {right : β}
    (start : related left right) : Agree related (values.foldlM step left) (values.foldlM otherStep right) := by
  induction values generalizing left right with
  | nil => exact .ok start
  | cons first rest ih =>
    rw [List.forall_mem_cons] at each
    rw [List.foldlM_cons, List.foldlM_cons]
    exact (each.1 left right start).bind fun _ _ => ih each.2

end Agree

namespace Mirrors

variable {admits : NetworkMap → Prop} {store : Memory} {database : Database}

theorem empty : Mirrors admits Memory.empty Database.empty where
  mapsFiled := .empty
  mapsAdmitted := .empty
  triggersFiled := .empty
  triggersFit := .empty
  problemsFit := .empty
  maps := .empty
  triggers := .empty
  problems := by rfl
  numbers := rfl
  config := by rfl
  profile := rfl

section Maps

theorem fits_of_found (mirrors : Mirrors admits store database) {id : MapId} {map : NetworkMap}
    (found : store.maps[id]? = some map) : map.id.FitsCell := by
  rw [(mirrors.mapsFiled id map found).1]
  exact mirrors.maps.fits id (mem_iff_exists_getElem?.mpr ⟨map, found⟩)

/-- A query for maps finds the same maps on both sides. -/
theorem mapsOf_eq (mirrors : Mirrors admits store database) {ids : IdSet .map} (fits : ids.FitsCells) :
    database.mapsOf ids = .ok (store.mapsOf ids) := by
  have answers : database.mapsOf ids = .ok ((chunks ids.toList).flatMap (List.filterMap (store.maps[·]?))) := by
    rw [Database.mapsOf, IdSet.cells_eq fits]
    refine answers_of_chunks fun chunk part short => (Clause.find_ofCondition short).trans ?_
    simp only [Condition.selects_ofNumbers]
    rw [mirrors.maps.filter_toList_eq (fun id map found => (mirrors.mapsFiled id map found).1)
      (Std.ExtTreeSet.ordered_toList.sublist part), List.mapM_map]
    have read (map : NetworkMap) (member : map ∈ chunk.filterMap (store.maps[·]?)) :
        Database.mapOfRow map.id.number (Database.rowOfMap map) = .ok map := by
      obtain ⟨id, _, found⟩ := List.mem_filterMap.mp member
      rw [Database.mapOfRow_rowOfMap (mirrors.fits_of_found found)]
      congr 1
      rw [← (mirrors.mapsFiled id map found).2]
    exact (mapM_eq_ok read).trans (congrArg _ (List.map_id' _))
  rw [answers, flatMap_chunks_filterMap, Memory.mapsOf]

theorem map_eq (mirrors : Mirrors admits store database) {id : MapId} (fits : id.FitsCell) :
    database.map id = store.map id := by
  have single : ({id} : IdSet .map).toList = [id] := rfl
  have asked : database.mapsOf {id} = .ok ([id].filterMap (store.maps[·]?)) := by
    rw [mirrors.mapsOf_eq (by simpa [IdSet.FitsCells, single] using fits), Memory.mapsOf, single]
  rw [Database.map, asked, Memory.map]
  cases found : store.maps[id]? <;> simp only [List.filterMap_cons, found] <;> rfl

theorem mapIds_eq (mirrors : Mirrors admits store database) : database.mapIds = .ok store.maps.keys := by
  have keys : database.maps.keys = store.maps.keys.map Ident.number := by
    rw [← Std.ExtTreeMap.map_fst_toList_eq_keys, mirrors.maps.toList_eq,
      ← Std.ExtTreeMap.map_fst_toList_eq_keys, List.map_map, List.map_map]
    rfl
  have read (id : MapId) (member : id ∈ store.maps.keys) : Database.ident id.number = .ok id := by
    rw [Database.ident, Ident.toIdent_number (mirrors.maps.fits id (Std.ExtTreeMap.mem_keys.mp member))]
    rfl
  rw [Database.mapIds, keys, List.mapM_map]
  exact (mapM_eq_ok read).trans (congrArg _ (List.map_id' _))

end Maps

section Triggers

/-- The triggers found under ascending identifiers are read from their rows. -/
theorem triggersAt_eq (mirrors : Mirrors admits store database) {ids : List TriggerId}
    (ascending : ids.Pairwise fun front back => compare front back = .lt) :
    database.triggersAt (ids.map Ident.number) = .ok (ids.filterMap (store.triggers[·]?)) := by
  have answers : database.triggersAt (ids.map Ident.number) =
      .ok ((chunks ids).flatMap (List.filterMap (store.triggers[·]?))) := by
    refine answers_of_chunks fun chunk part short => (Clause.find_ofCondition short).trans ?_
    simp only [Condition.selects_ofNumbers]
    rw [mirrors.triggers.filter_toList_eq mirrors.triggersFiled (ascending.sublist part)]
    have fits (trigger : Trigger) (member : trigger ∈ chunk.filterMap (store.triggers[·]?)) :
        trigger.FitsCells := by
      obtain ⟨id, _, found⟩ := List.mem_filterMap.mp member
      exact mirrors.triggersFit id trigger found
    exact Database.read_triggers fits
  rw [answers, flatMap_chunks_filterMap]

theorem own_id (mirrors : Mirrors admits store database) {entry : TriggerId × Trigger}
    (member : entry ∈ store.triggers.toList) : entry.2.id = entry.1 :=
  mirrors.triggersFiled _ _ (Std.ExtTreeMap.mem_toList_iff_getElem?_eq_some.mp member)

/-- The conditions that a query makes on names select what it names. -/
theorem any_named (query : TriggerQuery) (trigger : Trigger) :
    ((query.named.map Database.namingCondition).any fun named =>
      Database.namedBy trigger.id.number trigger.row named.2 named.1) = query.names trigger := by
  -- An empty set, which makes no condition, would select nothing.
  have selects (naming : Naming) (numbers : List Int) :
      (!numbers.isEmpty && Database.namedBy trigger.id.number trigger.row
        (Database.namingCondition (naming, numbers)).2 naming) =
      Database.namedBy trigger.id.number trigger.row (.ofNumbers naming.column numbers false) naming := by
    cases numbers with
    | nil =>
      have nothing (owners : Std.ExtTreeSet Int) : owners.any (fun _ => false) = false := by
        rw [← Bool.not_eq_true, any_eq_true_iff]
        simp
      cases naming <;> simp [Database.namedBy, Condition.selects_ofNumbers, nothing]
    | cons => rfl
  have named : Database.namedBy trigger.id.number trigger.row
      (.ofNumbers Naming.trigger.column query.triggers.numbers false) .trigger = query.triggers.contains trigger.id := by
    rw [Database.namedBy, Condition.selects_ofNumbers, IdSet.contains_numbers]
  rw [List.any_map, TriggerQuery.named, List.any_filter, TriggerQuery.names, ← named]
  simp only [Function.comp_apply, List.any_cons, List.any_nil, Bool.or_false, Bool.or_assoc, Database.namingCondition]
  rw [← IdSet.any_ofList_numbers Naming.host.column, ← IdSet.any_ofList_numbers Naming.group.column]
  exact congrArg₂ _ (selects ..) (congrArg₂ _ (selects ..) (selects ..))

theorem wantedKeys_eq (mirrors : Mirrors admits store database) {query : TriggerQuery} (fits : query.FitsCells)
    (askable : query.parameters ≤ parameterLimit) :
    database.wantedKeys query = .ok ((store.triggersOf query).map fun trigger => trigger.id.number) := by
  have wanted (entry : TriggerId × Trigger) (member : entry ∈ store.triggers.toList) :
      (decide ((query.minSeverity.level : Int) ≤ entry.2.row.severity) &&
        !(query.skipDependent && entry.2.row.suppressed) &&
        (query.named.map Database.namingCondition).any fun named =>
          Database.namedBy entry.1.number entry.2.row named.2 named.1) = query.wants entry.2 := by
    have severe : decide ((query.minSeverity.level : Int) ≤ entry.2.row.severity) =
        decide (query.minSeverity ≤ entry.2.severity) := by
      simp [Trigger.row, Database.rowOfTrigger, Severity.le_def]
    rw [severe, ← mirrors.own_id member, any_named]
    rfl
  rw [← Database.length_params_clauseOf] at askable
  rw [Database.wantedKeys, Database.conditions_eq fits]
  change (Clause.find _ _ _ >>= _) = _
  rw [Clause.find_of_le askable]
  change Except.ok _ = _
  rw [mirrors.triggers.toList_eq, List.filter_map, List.map_map, Memory.triggersOf, values_eq_map_toList,
    List.filter_map, List.map_map]
  congr 1
  refine (congrArg _ (List.filter_congr wanted)).trans (List.map_congr_left fun entry member => ?_)
  exact congrArg Ident.number (mirrors.own_id (List.mem_filter.mp member).1).symm

/-- A query for triggers finds the same triggers on both sides. -/
theorem triggersOf_eq (mirrors : Mirrors admits store database) {query : TriggerQuery} (fits : query.FitsCells)
    (askable : query.parameters ≤ parameterLimit) : database.triggersOf query = .ok (store.triggersOf query) := by
  rw [Database.triggersOf]
  split
  · next nothing =>
    have unwanted (trigger : Trigger) (_ : trigger ∈ store.triggers.values) : ¬ query.wants trigger = true := by
      obtain ⟨groups, hosts, triggers⟩ := TriggerQuery.isEmpty_iff.mp nothing
      rw [TriggerQuery.wants_iff]
      simp [groups, hosts, triggers]
    rw [Memory.triggersOf, List.filter_eq_nil_iff.mpr unwanted]
    rfl
  · let ids := (store.triggersOf query).map Trigger.id
    have sublist : ids.Sublist store.triggers.keys := by
      have listed : store.triggers.values.map Trigger.id = store.triggers.keys := by
        rw [values_eq_map_toList, ← Std.ExtTreeMap.map_fst_toList_eq_keys, List.map_map]
        exact List.map_congr_left fun entry member => mirrors.own_id member
      rw [← listed]
      exact List.filter_sublist.map _
    have found : ids.filterMap (store.triggers[·]?) = store.triggersOf query := by
      rw [List.filterMap_map]
      refine (List.filterMap_congr fun trigger member => ?_).trans List.filterMap_some
      obtain ⟨id, held⟩ := mem_values.mp (List.mem_filter.mp member).1
      rw [← mirrors.triggersFiled id trigger held] at held
      exact held
    have keys : (store.triggersOf query).map (fun trigger => trigger.id.number) = ids.map Ident.number := by
      rw [List.map_map]
      rfl
    rw [mirrors.wantedKeys_eq fits askable, keys]
    change database.triggersAt (ids.map Ident.number) = _
    rw [mirrors.triggersAt_eq (Std.ExtTreeMap.ordered_keys.sublist sublist), found]

theorem trigger_eq (mirrors : Mirrors admits store database) {id : TriggerId} (fits : id.FitsCell) :
    database.trigger id = store.trigger id := by
  have asked : database.triggersAt [id.number] = .ok ([id].filterMap (store.triggers[·]?)) :=
    mirrors.triggersAt_eq (List.pairwise_singleton ..)
  rw [Database.trigger, Database.cell_eq fits]
  change (database.triggersAt [id.number] >>= _) = _
  rw [asked, Memory.trigger]
  cases found : store.triggers[id]? <;> simp only [List.filterMap_cons, found] <;> rfl

end Triggers

section Problems

/-- The rows that a query selects for a chunk of triggers are those of the wanted problems. -/
theorem filter_rows (problems : List Problem) (minSeverity : Severity) (chunk : List TriggerId) :
    ((problems.map Problem.row).filter fun row => decide ((minSeverity.level : Int) ≤ row.severity) &&
      (Condition.ofNumbers "trigger_id" (chunk.map Ident.number) false).selects (some row.trigger)) =
      ((problems.filter fun problem => decide (minSeverity ≤ problem.severity)).filter fun problem =>
        chunk.contains problem.trigger).map Problem.row := by
  rw [List.filter_map, List.filter_filter]
  refine congrArg _ (List.filter_congr fun problem _ => ?_)
  have named : (chunk.map Ident.number).contains problem.trigger.number = chunk.contains problem.trigger := by
    rw [Bool.eq_iff_iff]
    simp [Ident.number_inj]
  have severe : decide ((minSeverity.level : Int) ≤ problem.row.severity) =
      decide (minSeverity ≤ problem.severity) := by
    simp [Problem.row, Severity.le_def]
  rw [Function.comp_apply, severe, Condition.selects_ofNumbers, Bool.and_comm]
  exact congrArg (· && _) named

/-- A query for problems finds the same problems on both sides, in some order. -/
theorem problemsOf_perm (mirrors : Mirrors admits store database) {query : ProblemQuery}
    (fits : query.triggers.FitsCells) :
    ∃ answer, database.problemsOf query = .ok answer ∧ answer.Perm (store.problemsOf query) := by
  let severe := store.problems.values.filter fun problem => decide (query.minSeverity ≤ problem.severity)
  have rows : database.problems.values = store.problems.values.map Problem.row := by
    rw [mirrors.problems, values_eq_map_toList, values_eq_map_toList, Std.ExtTreeMap.toList_map, List.map_map,
      List.map_map]
    rfl
  have answers : database.problemsOf query = .ok ((chunks query.triggers.toList).flatMap fun chunk =>
      severe.filter fun problem => chunk.contains problem.trigger) := by
    rw [Database.problemsOf, IdSet.cells_eq fits]
    refine answers_of_chunks fun chunk _ short => (Clause.find_ofSeverity _ short).trans ?_
    have read (problem : Problem)
        (member : problem ∈ severe.filter fun problem => chunk.contains problem.trigger) :
        Database.problemOfRow problem.row = .ok problem := by
      obtain ⟨number, found⟩ := mem_values.mp (List.mem_filter.mp (List.mem_filter.mp member).1).1
      exact Database.problemOfRow_row (mirrors.problemsFit number problem found)
    rw [rows, filter_rows, List.mapM_map]
    exact (mapM_eq_ok read).trans (congrArg _ (List.map_id' _))
  have distinct : query.triggers.toList.Nodup :=
    Std.ExtTreeSet.distinct_toList.imp fun differ same => differ (Std.compare_eq_iff_eq.mpr same)
  refine ⟨_, answers, (flatMap_chunks_filter_perm distinct Problem.trigger severe).trans (.of_eq ?_)⟩
  rw [List.filter_filter, Memory.problemsOf]
  refine List.filter_congr fun problem _ => ?_
  rw [ProblemQuery.wants, Bool.eq_iff_iff]
  simp

end Problems

section Writes

theorem insertMap (mirrors : Mirrors admits store database) {map : NetworkMap} (fits : map.id.FitsCell)
    (admitted : admits { map with submaps := ∅ }) :
    Agree (Mirrors admits) (store.insertMap map) (database.insertMap map) := by
  rw [Memory.insertMap, Database.insertMap]
  cases map.validate with
  | error fault => exact .error _
  | ok =>
    rw [Database.cell_eq fits]
    exact .ok { mirrors with
      mapsFiled := mirrors.mapsFiled.insert ⟨rfl, rfl⟩
      mapsAdmitted := mirrors.mapsAdmitted.insert admitted
      maps := mirrors.maps.insert fits { map with submaps := ∅ } }

theorem deleteMap (mirrors : Mirrors admits store database) {id : MapId} (fits : id.FitsCell) :
    Agree (Mirrors admits) (store.deleteMap id) (database.deleteMap id) := by
  rw [Memory.deleteMap, Database.deleteMap, Database.cell_eq fits]
  change Agree (Mirrors admits) _ (if database.maps.contains id.number then _ else _)
  rw [mirrors.maps.contains_eq]
  split
  · exact .ok { mirrors with
      mapsFiled := mirrors.mapsFiled.erase id
      mapsAdmitted := mirrors.mapsAdmitted.erase id
      maps := mirrors.maps.erase id }
  · exact .error _

theorem insertTrigger (mirrors : Mirrors admits store database) {trigger : Trigger} (fits : trigger.FitsCells) :
    ∃ changed, database.insertTrigger trigger = .ok changed ∧
      Mirrors admits (store.insertTrigger trigger) changed := by
  refine ⟨{ database with triggers := database.triggers.insert trigger.id.number trigger.row }, ?_, ?_⟩
  · exact Database.insertTrigger_eq database fits
  · exact { mirrors with
      triggersFiled := mirrors.triggersFiled.insert rfl
      triggersFit := mirrors.triggersFit.insert fits
      triggers := mirrors.triggers.insert fits.1 trigger }

theorem insertProblem (mirrors : Mirrors admits store database) {problem : Problem}
    (fits : problem.trigger.FitsCell) :
    Agree (fun left right => Mirrors admits left.1 right.1 ∧ left.2 = right.2) (store.insertProblem problem)
      (database.insertProblem problem) := by
  rw [Memory.insertProblem, Database.insertProblem_eq database fits, mirrors.triggers.contains_eq]
  split
  · refine .ok ⟨{ mirrors with
      problemsFit := mirrors.problemsFit.insert fits
      problems := ?_
      numbers := ?_ }, mirrors.numbers.symm⟩
    · change database.problems.insert (database.lastProblem + 1) problem.row = _
      rw [mirrors.numbers, mirrors.problems, map_insert]
    · exact congrArg (· + 1) mirrors.numbers
  · exact .error _

theorem acknowledge (mirrors : Mirrors admits store database) (id : Int) :
    Agree (Mirrors admits) (store.acknowledge id) (database.acknowledge id) := by
  rw [Memory.acknowledge, Database.acknowledge, mirrors.problems, Std.ExtTreeMap.getElem?_map]
  cases found : store.problems[id]? with
  | none => exact .error _
  | some problem =>
    refine .ok { mirrors with
      problemsFit := mirrors.problemsFit.insert (mirrors.problemsFit id problem found)
      problems := ?_ }
    rw [map_insert]
    rfl

theorem resolve (mirrors : Mirrors admits store database) (id : Int) :
    Agree (Mirrors admits) (store.resolve id) (database.resolve id) := by
  rw [Memory.resolve, Database.resolve, mirrors.problems, Std.ExtTreeMap.contains_map]
  split
  · refine .ok { mirrors with
      problemsFit := mirrors.problemsFit.erase id
      problems := ?_ }
    rw [map_erase]
  · exact .error _

theorem setSeverityConfig (mirrors : Mirrors admits store database) (config : SeverityConfig) :
    Mirrors admits { store with config := some config } (database.setSeverityConfig config) :=
  { mirrors with config := Database.severityConfig_setSeverityConfig database config }

section Entries

variable (mirrors : Mirrors admits store database) (user widget : Int) (name : String)

include mirrors

theorem setEntry (value : String) : Mirrors admits (ProfileStore.set store user widget name value)
    (ProfileStore.set database user widget name value) :=
  { mirrors with profile := congrArg (Profile.set · user widget name value) mirrors.profile }

theorem deleteEntry : Mirrors admits (ProfileStore.delete store user widget name)
    (ProfileStore.delete database user widget name) :=
  { mirrors with
    profile := (database.profile_deleteEntry user widget name).trans
      (congrArg (Profile.delete · user widget name) mirrors.profile) }

end Entries

end Writes

end Mirrors

end ProblemBoard
