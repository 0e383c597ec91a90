import Mathlib.Data.List.Nodup
import Mathlib.Data.List.Perm.Subperm
import ProblemBoard.Fault
import ProblemBoard.Proofs.Nesting

/-! # Discovery is a breadth-first search

A feed that answers from a fixed table of maps is asked, wave by wave, for the maps at each distance
from the roots, where a step goes from a map of the table to any map embedded in it, whatever the
permission. What came is filed, what did not come is missing, and the nested maps of a filed map are
those that readable embeddings of the whole table lead to: whatever they lead to has been discovered.
-/

namespace ProblemBoard

open Relation

/-- The feed answers from a fixed table: of the maps that were asked for, it gives those of the table.
What else it gives does not matter. -/
def AnswersFrom (table : List NetworkMap)
    (feed : IdSet .map → Except FeedFault (List NetworkMap)) : Prop :=
  ∀ ids, ∃ answer, feed ids = .ok answer ∧
    ∀ map : NetworkMap, map.id ∈ ids → (map ∈ answer ↔ map ∈ table)

/-- The feed that gives what is asked for in the order of the table. -/
def answering (table : List NetworkMap) (ids : IdSet .map) : Except FeedFault (List NetworkMap) :=
  .ok (table.filter (ids.contains ·.id))

theorem answersFrom_answering (table : List NetworkMap) : AnswersFrom table (answering table) := by
  intro ids
  exact ⟨_, rfl, fun map asked => by simp [asked]⟩

/-- The feed with a record of what it is asked for. -/
def recorded (feed : IdSet .map → Except FeedFault (List NetworkMap)) (ids : IdSet .map) :
    StateT (List (IdSet .map)) (Except FeedFault) (List NetworkMap) := do
  modify (· ++ [ids])
  feed ids

/-- The identifiers in a set that name a map. -/
def nonzero (ids : IdSet .map) : Set MapId := {id | id ∈ ids ∧ id ≠ .zero}

theorem EmbedsReadably.mono {maps more : List NetworkMap} (subset : maps ⊆ more) {outer inner : MapId}
    (step : EmbedsReadably maps outer inner) : EmbedsReadably more outer inner := by
  obtain ⟨nonzero, map, member, named, element⟩ := step
  exact ⟨nonzero, map, subset member, named, element⟩

namespace Atlas

section Surveys

variable (answer : IdSet .map → List NetworkMap)

/-- The maps of an answer that were asked for. -/
def arrived (wave : IdSet .map) : List NetworkMap := (answer wave).filter (wave.contains ·.id)

/-- What the maps of one wave embed. -/
def reportOf (wave : IdSet .map) : List MapId :=
  ((arrived answer wave).flatMap NetworkMap.embedded).filter (!·.isZero)

/-- What has been learned after one more wave. -/
def Survey.after (survey : Survey) (wave : IdSet .map) : Survey :=
  let maps := (arrived answer wave).foldl (fun maps map => maps.insert map.id map) survey.maps
  { maps
    missing := survey.missing ∪ wave.filter (!maps.contains ·)
    waves := survey.waves + 1 }

/-- What is known after all waves from some roots. -/
def surveyOf (roots : IdSet .map) : Survey :=
  (wavesOf (reportOf answer) (roots.filter (!·.isZero))).foldl (Survey.after answer) ⟨∅, ∅, 0⟩

/-- The atlas that the answers of a feed make up. -/
def charted (roots : IdSet .map) : Atlas :=
  { ofMaps (roots.filter (!·.isZero)) (surveyOf answer roots).maps (surveyOf answer roots).missing with
    waves := (surveyOf answer roots).waves }

/-- Discovery asks for its waves in order, whatever effect the asking has, and makes an atlas of the
answers. -/
theorem discover_eq {m : Type → Type} [Monad m] [LawfulMonad m] (note : IdSet .map → m PUnit)
    (roots : IdSet .map) :
    discover (fun ids => do note ids; pure (answer ids)) roots = (do
      forM (wavesOf (reportOf answer) (roots.filter (!·.isZero))) note
      pure (charted answer roots)) := by
  have visits (wave : IdSet .map) (survey : Survey) :
      fetchWave (fun ids => do note ids; pure (answer ids)) wave survey =
        (reportOf answer wave, ·) <$> (do note wave; pure (survey.after answer wave)) := by
    simp [fetchWave, reportOf, arrived, Survey.after]
  have noted (batches : List (IdSet .map)) (survey : Survey) :
      batches.foldlM (fun survey wave => do note wave; pure (survey.after answer wave)) survey =
        (do forM batches note; pure (batches.foldl (Survey.after answer) survey)) := by
    induction batches generalizing survey with
    | nil => simp
    | cons wave rest ih =>
      simp only [List.foldlM_cons, bind_assoc, pure_bind, ih, List.forM_cons, List.foldl_cons]
  rw [discover, explore_eq visits, noted]
  simp [charted, surveyOf]

end Surveys

variable {table : List NetworkMap} {answer : IdSet .map → List NetworkMap}

/-- The answers hold, of the maps that were asked for, those of the table. -/
def Faithful (table : List NetworkMap) (answer : IdSet .map → List NetworkMap) : Prop :=
  ∀ ids (map : NetworkMap), map.id ∈ ids → (map ∈ answer ids ↔ map ∈ table)

theorem eq_of_id_eq (distinct : (table.map NetworkMap.id).Nodup) :
    ∀ map ∈ table, ∀ other ∈ table, map.id = other.id → map = other :=
  fun _ member _ there same => List.inj_on_of_nodup_map distinct member there same

/-- One of the waves asks for the map. -/
def SeenIn (waves : List (IdSet .map)) (id : MapId) : Prop := ∃ wave ∈ waves, id ∈ wave

theorem seenIn_concat {prior : List (IdSet .map)} {wave : IdSet .map} {id : MapId} :
    SeenIn (prior ++ [wave]) id ↔ SeenIn prior id ∨ id ∈ wave := by
  simp [SeenIn, or_and_right, exists_or]

/-- What a survey knows once some waves have been fetched from a table. -/
structure Surveyed (table : List NetworkMap) (prior : List (IdSet .map)) (survey : Survey) : Prop where
  maps : ∀ (id : MapId) (map : NetworkMap), survey.maps[id]? = some map ↔
    SeenIn prior id ∧ map ∈ table ∧ map.id = id
  missing : ∀ id : MapId, id ∈ survey.missing ↔ SeenIn prior id ∧ ∀ map ∈ table, map.id ≠ id
  waves : survey.waves = prior.length

theorem Surveyed.mem_maps {prior : List (IdSet .map)} {survey : Survey}
    (surveyed : Surveyed table prior survey) {id : MapId} :
    id ∈ survey.maps ↔ SeenIn prior id ∧ ∃ map ∈ table, map.id = id := by
  simp [mem_iff_exists_getElem?, surveyed.maps]

theorem mem_arrived (faithful : Faithful table answer) {wave : IdSet .map} {map : NetworkMap} :
    map ∈ arrived answer wave ↔ map ∈ table ∧ map.id ∈ wave := by
  simp only [arrived, List.mem_filter, Std.ExtTreeSet.contains_iff_mem]
  constructor
  · rintro ⟨member, asked⟩
    exact ⟨(faithful wave map asked).mp member, asked⟩
  · rintro ⟨member, asked⟩
    exact ⟨(faithful wave map asked).mpr member, asked⟩

/-- A report lists what is one step further in the table. -/
theorem mem_reportOf (faithful : Faithful table answer) (wave : IdSet .map) (inner : MapId) :
    inner ∈ reportOf answer wave ↔ ∃ outer ∈ wave, Embeds table outer inner := by
  simp only [reportOf, List.mem_filter, List.mem_flatMap, mem_arrived faithful, Embeds,
    Bool.not_eq_true', ← Bool.not_eq_true, Ident.isZero_iff]
  constructor
  · rintro ⟨⟨map, ⟨member, asked⟩, element⟩, nonzero⟩
    exact ⟨map.id, asked, nonzero, map, member, rfl, element⟩
  · rintro ⟨_, asked, nonzero, map, member, rfl, element⟩
    exact ⟨⟨map, ⟨member, asked⟩, element⟩, nonzero⟩

/-- Filing maps of a table in which every identifier names one map at most. -/
theorem getElem?_foldl_file (distinct : (table.map NetworkMap.id).Nodup) {known : MapId → Prop}
    {maps : List NetworkMap} (subset : maps ⊆ table) {filed : MapTable}
    (knows : ∀ (id : MapId) (map : NetworkMap), filed[id]? = some map ↔
      known id ∧ map ∈ table ∧ map.id = id) (id : MapId) (map : NetworkMap) :
    (maps.foldl (fun filed map => filed.insert map.id map) filed)[id]? = some map ↔
      (known id ∨ ∃ other ∈ maps, other.id = id) ∧ map ∈ table ∧ map.id = id := by
  have consistent : ∀ map ∈ maps, ∀ other ∈ maps, map.id = other.id → map = other :=
    fun map member other there => eq_of_id_eq distinct map (subset member) other (subset there)
  rw [getElem?_foldl_insert consistent, knows]
  constructor
  · rintro (⟨_, member, named, rfl⟩ | ⟨_, earlier, found⟩)
    · exact ⟨.inr ⟨_, member, named⟩, subset member, named⟩
    · exact ⟨.inl earlier, found⟩
  · rintro ⟨seen, member, named⟩
    by_cases here : ∃ other ∈ maps, other.id = id
    · obtain ⟨other, there, same⟩ := here
      obtain rfl := eq_of_id_eq distinct other (subset there) map member (same.trans named.symm)
      exact .inl ⟨other, there, named, rfl⟩
    · refine .inr ⟨fun other there same => here ⟨other, there, same⟩, ?_, member, named⟩
      exact seen.resolve_right here

/-- One more wave brings exactly the maps of the table that it asks for. -/
theorem Surveyed.after (distinct : (table.map NetworkMap.id).Nodup)
    (faithful : Faithful table answer)
    {prior : List (IdSet .map)} {survey : Survey} (surveyed : Surveyed table prior survey)
    (wave : IdSet .map) : Surveyed table (prior ++ [wave]) (survey.after answer wave) := by
  have maps (id : MapId) (map : NetworkMap) : (survey.after answer wave).maps[id]? = some map ↔
      SeenIn (prior ++ [wave]) id ∧ map ∈ table ∧ map.id = id := by
    have subset : arrived answer wave ⊆ table := fun map member => ((mem_arrived faithful).mp member).1
    rw [Survey.after, getElem?_foldl_file distinct subset surveyed.maps, seenIn_concat]
    simp only [mem_arrived faithful]
    constructor
    · rintro ⟨earlier | ⟨other, ⟨_, asked⟩, rfl⟩, found⟩
      · exact ⟨.inl earlier, found⟩
      · exact ⟨.inr asked, found⟩
    · rintro ⟨earlier | asked, member, named⟩
      · exact ⟨.inl earlier, member, named⟩
      · exact ⟨.inr ⟨map, ⟨member, named ▸ asked⟩, named⟩, member, named⟩
  have filed (id : MapId) : id ∈ (survey.after answer wave).maps ↔
      SeenIn (prior ++ [wave]) id ∧ ∃ map ∈ table, map.id = id := by
    simp [mem_iff_exists_getElem?, maps]
  refine ⟨maps, fun id => ?_, by simp [Survey.after, surveyed.waves]⟩
  have missing : id ∈ (survey.after answer wave).missing ↔
      id ∈ survey.missing ∨ id ∈ wave ∧ id ∉ (survey.after answer wave).maps := by
    simp [Survey.after, Std.ExtTreeSet.mem_union_iff, ← Bool.not_eq_true]
  rw [missing, surveyed.missing, filed, seenIn_concat]
  constructor
  · rintro (⟨earlier, absent⟩ | ⟨asked, unfiled⟩)
    · exact ⟨.inl earlier, absent⟩
    · exact ⟨.inr asked, fun map member named => unfiled ⟨.inr asked, map, member, named⟩⟩
  · rintro ⟨earlier | asked, absent⟩
    · exact .inl ⟨earlier, absent⟩
    · exact .inr ⟨asked, fun ⟨_, map, member, named⟩ => absent map member named⟩

theorem surveyed_surveyOf (distinct : (table.map NetworkMap.id).Nodup)
    (faithful : Faithful table answer)
    (roots : IdSet .map) :
    Surveyed table (wavesOf (reportOf answer) (roots.filter (!·.isZero))) (surveyOf answer roots) := by
  have along (prior rest : List (IdSet .map)) (survey : Survey) (surveyed : Surveyed table prior survey) :
      Surveyed table (prior ++ rest) (rest.foldl (Survey.after answer) survey) := by
    induction rest generalizing prior survey with
    | nil => simpa using surveyed
    | cons wave rest ih => simpa using ih (prior ++ [wave]) _ (surveyed.after distinct faithful wave)
  have nothing : Surveyed table [] ⟨∅, ∅, 0⟩ := by
    constructor <;> simp [SeenIn]
  exact along [] _ _ nothing

/-- What an atlas holds that has been discovered in a table: the maps that the roots lead to, by as
few steps as the batches say, with what is nested in them. -/
structure Discovered (table : List NetworkMap) (roots : Set MapId) (batches : List (IdSet .map))
    (atlas : Atlas) : Prop where
  level : ∀ place id, (∃ batch, batches[place]? = some batch ∧ id ∈ batch) ↔
    AtDistance (Embeds table) roots place id
  nonempty : ∀ batch ∈ batches, batch ≠ ∅
  filed : ∀ id : MapId, id ∈ atlas.maps ↔ Reached (Embeds table) roots id ∧ ∃ map ∈ table, map.id = id
  kept : ∀ (id : MapId) (map : NetworkMap), atlas.maps[id]? = some map →
    ∃ original ∈ table, original.id = id ∧ map = { original with submaps := map.submaps }
  nested : ∀ (id : MapId) (map : NetworkMap), atlas.maps[id]? = some map → ∀ inner,
    inner ∈ map.submaps ↔ TransGen (EmbedsReadably table) id inner
  missing : ∀ id : MapId, id ∈ atlas.missing ↔
    Reached (Embeds table) roots id ∧ ∀ map ∈ table, map.id ≠ id
  waves : atlas.waves = batches.length

/-- Whatever readable embeddings of the table lead to from a discovered map, embeddings of discovered
maps lead to as well. -/
theorem transGen_embedsReadably_iff {roots : Set MapId} {maps : List NetworkMap} (subset : maps ⊆ table)
    (complete : ∀ map ∈ table, Reached (Embeds table) roots map.id → map ∈ maps) {id inner : MapId}
    (reached : Reached (Embeds table) roots id) :
    TransGen (EmbedsReadably maps) id inner ↔ TransGen (EmbedsReadably table) id inner := by
  have here {outer inner : MapId} (reached : Reached (Embeds table) roots outer)
      (step : EmbedsReadably table outer inner) : EmbedsReadably maps outer inner := by
    obtain ⟨nonzero, map, member, rfl, element⟩ := step
    exact ⟨nonzero, map, complete map member reached, rfl, element⟩
  constructor
  · exact TransGen.mono (fun _ _ step => EmbedsReadably.mono subset step) id inner
  · intro way
    suffices TransGen (EmbedsReadably maps) id inner ∧ Reached (Embeds table) roots inner from this.1
    induction way with
    | single step => exact ⟨.single (here reached step), reached.tail step.embeds⟩
    | tail _ step ih => exact ⟨ih.1.tail (here ih.2 step), ih.2.tail step.embeds⟩

theorem mem_filter_isZero {roots : IdSet .map} :
    {id | id ∈ roots.filter (!·.isZero)} = nonzero roots := by
  ext id
  simp [nonzero, ← Ident.isZero_iff]

/-- The atlas of a faithful feed's answers is the one discovered in its table. -/
theorem discovered_charted (distinct : (table.map NetworkMap.id).Nodup)
    (faithful : Faithful table answer)
    (roots : IdSet .map) :
    Discovered table (nonzero roots) (wavesOf (reportOf answer) (roots.filter (!·.isZero)))
      (charted answer roots) := by
  have surveyed := surveyed_surveyOf distinct faithful roots
  have seen (id : MapId) : SeenIn (wavesOf (reportOf answer) (roots.filter (!·.isZero))) id ↔
      Reached (Embeds table) (nonzero roots) id := by
    rw [SeenIn, exists_mem_wavesOf_iff_reached (mem_reportOf faithful), mem_filter_isZero]
  have found (id : MapId) (map : NetworkMap) : (surveyOf answer roots).maps[id]? = some map ↔
      Reached (Embeds table) (nonzero roots) id ∧ map ∈ table ∧ map.id = id := by
    rw [surveyed.maps, seen]
  have original {id : MapId} {map : NetworkMap} (filed : (charted answer roots).maps[id]? = some map) :
      ∃ original, (surveyOf answer roots).maps[id]? = some original ∧
        map = { original with
          submaps := (Embeddings.ofMaps (surveyOf answer roots).maps.values).nested id } := by
    obtain ⟨original, present, rfl⟩ := Option.map_eq_some_iff.mp (getElem?_close ▸ filed)
    exact ⟨original, present, rfl⟩
  constructor
  case level =>
    intro place id
    rw [mem_wavesOf_iff_atDistance (mem_reportOf faithful), mem_filter_isZero]
  case nonempty => exact wavesOf_ne_empty
  case filed =>
    intro id
    rw [← seen, ← surveyed.mem_maps]
    exact mem_close
  case kept =>
    intro id map filed
    obtain ⟨original, present, rfl⟩ := original filed
    obtain ⟨_, member, named⟩ := (found id original).mp present
    exact ⟨original, member, named, rfl⟩
  case nested =>
    intro id map filed inner
    obtain ⟨original, present, rfl⟩ := original filed
    rw [Embeddings.mem_nested_ofMaps]
    refine transGen_embedsReadably_iff (fun map member => ?_) (fun map member reached => ?_)
      ((found id original).mp present).1
    · obtain ⟨key, filed⟩ := mem_values.mp member
      exact ((found key map).mp filed).2.1
    · exact mem_values.mpr ⟨map.id, (found map.id map).mpr ⟨reached, member, rfl⟩⟩
  case missing =>
    intro id
    rw [← seen, ← surveyed.missing]
    rfl
  case waves => exact surveyed.waves

namespace Discovered

variable {roots : Set MapId} {batches : List (IdSet .map)} {atlas : Atlas}

theorem exists_mem_of_lt (discovered : Discovered table roots batches atlas) {place : Nat}
    (bound : place < batches.length) : ∃ id, AtDistance (Embeds table) roots place id := by
  by_contra none_there
  refine discovered.nonempty batches[place] (List.getElem_mem bound) ?_
  ext id
  simp only [Std.ExtTreeSet.not_mem_empty, iff_false]
  intro member
  exact none_there ⟨id, (discovered.level place id).mp ⟨_, List.getElem?_eq_getElem bound, member⟩⟩

/-- Every batch but the last names a map that came, for it led to the next batch. -/
theorem exists_filed_of_lt (discovered : Discovered table roots batches atlas) {place : Nat}
    (bound : place + 1 < batches.length) :
    ∃ id, AtDistance (Embeds table) roots place id ∧ id ∈ atlas.maps := by
  obtain ⟨inner, further⟩ := discovered.exists_mem_of_lt bound
  obtain ⟨⟨outer, at_outer, _, map, member, named, _⟩, _⟩ := AtDistance.succ_iff.mp further
  exact ⟨outer, at_outer, (discovered.filed outer).mpr ⟨at_outer.reached, map, member, named⟩⟩

theorem waves_le (discovered : Discovered table roots batches atlas) :
    atlas.waves ≤ atlas.maps.size + 1 := by
  have led (place : Nat) (bound : place + 1 < batches.length) := discovered.exists_filed_of_lt bound
  choose! source at_source filed using led
  have places {place : Nat} (member : place ∈ List.range (batches.length - 1)) :
      place + 1 < batches.length := by
    rw [List.mem_range] at member
    omega
  have distinct : ((List.range (batches.length - 1)).map source).Nodup := by
    refine List.Nodup.map_on (fun place here other there same => ?_) List.nodup_range
    exact (at_source place (places here)).unique (same ▸ at_source other (places there))
  have subset : (List.range (batches.length - 1)).map source ⊆ atlas.maps.keys := by
    intro id member
    obtain ⟨place, here, rfl⟩ := List.mem_map.mp member
    exact Std.ExtTreeMap.mem_keys.mpr (filed place (places here))
  have fewer := (distinct.subperm subset).length_le
  rw [List.length_map, List.length_range, Std.ExtTreeMap.length_keys] at fewer
  rw [discovered.waves]
  omega

theorem waves_eq_zero (discovered : Discovered table roots batches atlas) (rootless : roots = ∅) :
    atlas.waves = 0 := by
  by_contra some_wave
  have bound : 0 < batches.length := by
    rw [discovered.waves] at some_wave
    omega
  obtain ⟨root, at_root⟩ := discovered.exists_mem_of_lt bound
  rw [AtDistance.zero_iff, rootless] at at_root
  exact at_root

/-- What is discovered of a map does not depend on the roots. -/
theorem getElem?_eq (distinct : (table.map NetworkMap.id).Nodup)
    (discovered : Discovered table roots batches atlas) {others : Set MapId}
    {more : List (IdSet .map)} {other : Atlas} (alsoDiscovered : Discovered table others more other)
    {id : MapId} (here : id ∈ atlas.maps) (there : id ∈ other.maps) :
    atlas.maps[id]? = other.maps[id]? := by
  obtain ⟨map, found⟩ := mem_iff_exists_getElem?.mp here
  obtain ⟨copy, foundThere⟩ := mem_iff_exists_getElem?.mp there
  obtain ⟨original, member, named, same⟩ := discovered.kept id map found
  obtain ⟨twin, twinMember, twinNamed, twinSame⟩ := alsoDiscovered.kept id copy foundThere
  obtain rfl := eq_of_id_eq distinct original member twin twinMember (named.trans twinNamed.symm)
  have submaps : map.submaps = copy.submaps := by
    ext inner
    rw [discovered.nested id map found, alsoDiscovered.nested id copy foundThere]
  rw [found, foundThere, same, twinSame, submaps]

end Discovered

theorem run_discover_recorded (answer : IdSet .map → List NetworkMap) (roots : IdSet .map) :
    (discover (recorded fun ids => .ok (answer ids)) roots).run [] =
      .ok (charted answer roots, wavesOf (reportOf answer) (roots.filter (!·.isZero))) := by
  have logged (batches log : List (IdSet .map)) :
      (forM batches (fun ids => modify (· ++ [ids])) :
        StateT (List (IdSet .map)) (Except FeedFault) PUnit).run log = .ok (⟨⟩, log ++ batches) := by
    induction batches generalizing log with
    | nil =>
      rw [List.append_nil]
      rfl
    | cons batch rest ih =>
      have moved := ih (log ++ [batch])
      rw [List.append_assoc, List.singleton_append] at moved
      exact moved
  have effects : recorded (fun ids => .ok (answer ids)) =
      fun ids => (do modify (· ++ [ids]); pure (answer ids)) := rfl
  rw [effects, discover_eq, StateT.run_bind, logged]
  rfl

theorem discover_ok (answer : IdSet .map → List NetworkMap) (roots : IdSet .map) :
    discover (m := Except FeedFault) (fun ids => .ok (answer ids)) roots =
      .ok (charted answer roots) := by
  have quiet (batches : List (IdSet .map)) :
      (forM batches fun _ => pure ⟨⟩ : Except FeedFault PUnit) = pure ⟨⟩ := by
    induction batches with
    | nil => rfl
    | cons batch rest ih => simpa using ih
  have unnoted := discover_eq answer (fun _ => (pure ⟨⟩ : Except FeedFault PUnit)) roots
  rw [quiet] at unnoted
  exact unnoted

/-- A faithful feed has a function of its answers. -/
theorem exists_answer {feed : IdSet .map → Except FeedFault (List NetworkMap)}
    (faithful : AnswersFrom table feed) :
    ∃ answer, feed = (fun ids => .ok (answer ids)) ∧ Faithful table answer := by
  choose answer given members using faithful
  exact ⟨answer, funext given, members⟩

/-- Discovery succeeds on every faithful feed. -/
theorem exists_discovered (distinct : (table.map NetworkMap.id).Nodup)
    {feed : IdSet .map → Except FeedFault (List NetworkMap)} (faithful : AnswersFrom table feed)
    (roots : IdSet .map) :
    ∃ atlas batches, discover feed roots = .ok atlas ∧
      Discovered table (nonzero roots) batches atlas := by
  obtain ⟨answer, rfl, members⟩ := exists_answer faithful
  exact ⟨_, _, discover_ok answer roots, discovered_charted distinct members roots⟩

/-- Discovery asks a feed that answers from a fixed table for the maps at each distance from the
roots in turn, and for nothing else. It holds the maps that were reached and exist, knows those that
were reached and do not, and fills in the same nested maps from whatever roots it started. -/
theorem discover_breadth_first (distinct : (table.map NetworkMap.id).Nodup)
    {feed : IdSet .map → Except FeedFault (List NetworkMap)} (faithful : AnswersFrom table feed)
    (roots : IdSet .map) :
    ∃ atlas batches,
      discover feed roots = .ok atlas ∧
      (discover (recorded feed) roots).run [] = .ok (atlas, batches) ∧
      (∀ place id, (∃ batch, batches[place]? = some batch ∧ id ∈ batch) ↔
        AtDistance (Embeds table) (nonzero roots) place id) ∧
      (∀ batch ∈ batches, batch ≠ ∅) ∧
      (∀ id : MapId, id ∈ atlas.maps ↔
        Reached (Embeds table) (nonzero roots) id ∧ ∃ map ∈ table, map.id = id) ∧
      (∀ id : MapId, id ∈ atlas.missing ↔
        Reached (Embeds table) (nonzero roots) id ∧ ∀ map ∈ table, map.id ≠ id) ∧
      (∀ (id : MapId) (map : NetworkMap), atlas.maps[id]? = some map →
        (∃ original ∈ table, original.id = id ∧ map = { original with submaps := map.submaps }) ∧
        ∀ inner, inner ∈ map.submaps ↔ TransGen (EmbedsReadably table) id inner) ∧
      atlas.waves = batches.length ∧
      atlas.waves ≤ atlas.maps.size + 1 ∧
      ((∀ root ∈ roots, root = .zero) → atlas.waves = 0) ∧
      ∀ others other, discover feed others = .ok other → ∀ id ∈ atlas.maps, id ∈ other.maps →
        atlas.maps[id]? = other.maps[id]? := by
  obtain ⟨answer, rfl, members⟩ := exists_answer faithful
  have discovered := discovered_charted distinct members roots
  refine ⟨charted answer roots, _, discover_ok answer roots, run_discover_recorded answer roots,
    discovered.level, discovered.nonempty, discovered.filed, discovered.missing, ?_,
    discovered.waves, discovered.waves_le, ?_, ?_⟩
  · intro id map found
    exact ⟨discovered.kept id map found, discovered.nested id map found⟩
  · intro zero
    refine discovered.waves_eq_zero (Set.eq_empty_iff_forall_notMem.mpr ?_)
    rintro root ⟨member, nonzero⟩
    exact nonzero (zero root member)
  · intro others other success id here there
    rw [discover_ok] at success
    obtain rfl := Except.ok.inj success
    exact discovered.getElem?_eq distinct
      (discovered_charted distinct members others) here there

/-- Map 1 may not show map 2, which embeds it in turn, and map 3 is missing. -/
def guarded : List NetworkMap := [.embedding ⟨1⟩ .deny [⟨2⟩], .embedding ⟨2⟩ .read [⟨1⟩, ⟨3⟩]]

/-- Map 1, and no map. -/
def guardedRoots : IdSet .map := {⟨0⟩, ⟨1⟩}

/-- Map 2 is discovered behind an element that may not be read, and is not nested in map 1. -/
theorem discover_breadth_first_guarded :
    (guarded.map NetworkMap.id).Nodup ∧ AnswersFrom guarded (answering guarded) ∧
      ∃ atlas batches,
        (discover (recorded (answering guarded)) guardedRoots).run [] = .ok (atlas, batches) ∧
        (∀ place id, (∃ batch, batches[place]? = some batch ∧ id ∈ batch) ↔
          AtDistance (Embeds guarded) (nonzero guardedRoots) place id) ∧
        batches.map (·.toList) = [[⟨1⟩], [⟨2⟩], [⟨3⟩]] ∧
        atlas.missing.toList = [⟨3⟩] ∧
        (atlas.submaps ⟨1⟩).toList = [] ∧
        (atlas.submaps ⟨2⟩).toList = [⟨1⟩, ⟨3⟩] := by
  have distinct : (guarded.map NetworkMap.id).Nodup := by decide
  obtain ⟨atlas, batches, _, run, level, _⟩ :=
    discover_breadth_first distinct (answersFrom_answering guarded) guardedRoots
  have shown : ((discover (recorded (answering guarded)) guardedRoots).run []).toOption.map
      (fun result => (result.2.map (·.toList), result.1.missing.toList,
        (result.1.submaps ⟨1⟩).toList, (result.1.submaps ⟨2⟩).toList)) =
      some ([[⟨1⟩], [⟨2⟩], [⟨3⟩]], [⟨3⟩], [], [⟨1⟩, ⟨3⟩]) := by
    decide +kernel
  rw [run] at shown
  simp only [Except.toOption, Option.map_some, Option.some.injEq, Prod.mk.injEq] at shown
  exact ⟨distinct, answersFrom_answering guarded, atlas, batches, run, level, shown⟩

end Atlas

end ProblemBoard
