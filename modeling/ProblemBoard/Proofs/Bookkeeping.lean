import ProblemBoard.Proofs.Discovery
import ProblemBoard.Proofs.Results

/-! # What discovery keeps of an untrustworthy feed

A feed of maps may answer as it likes: with maps that nobody asked for, with several maps under one
identifier, with nothing, or with something else every time. Discovery still keeps its books straight.
It asks for no map twice, and whatever it has asked for is filed or missing: a map is filed under its own
identifier, as it came in the answer to the call that asked for it, and everything that it embeds has been
asked for too. So the nested maps of a filed map, and the scopes of the roots, hold nothing that the atlas
does not know about.
-/

namespace ProblemBoard

open Relation

section Explorations

variable {m : Type → Type} [Monad m] {entity : Entity} {σ log : Type}

/-- Visits that also write a log explore what they would explore without it. -/
theorem run_exploreFrom_logged [LawfulMonad m] {visit : IdSet entity → σ → m (List (Ident entity) × σ)}
    {logged : IdSet entity → σ → StateT log m (List (Ident entity) × σ)}
    (visits : ∀ wave state entries, Prod.fst <$> (logged wave state).run entries = visit wave state)
    (seen wave : IdSet entity) (state : σ) (entries : log) :
    Prod.fst <$> (exploreFrom logged seen wave state).run entries = exploreFrom visit seen wave state := by
  -- By induction on the identifiers still unseen, for the log leaves the reports as they are.
  induction seen, wave, state using exploreFrom.induct generalizing entries with
  | case1 seen wave state ih =>
    rw [exploreFrom, exploreFrom, StateT.run_bind, map_bind, ← visits wave state entries, bind_map_left]
    refine bind_congr ?_
    rintro ⟨⟨reported, next⟩, more⟩
    by_cases done : (freshAmong seen reported).isEmpty = true
    · simp only [dif_pos done, StateT.run_pure, map_pure]
    · simp only [dif_neg done]
      exact ih reported next done more

theorem run_explore_logged [LawfulMonad m] {visit : IdSet entity → σ → m (List (Ident entity) × σ)}
    {logged : IdSet entity → σ → StateT log m (List (Ident entity) × σ)}
    (visits : ∀ wave state entries, Prod.fst <$> (logged wave state).run entries = visit wave state)
    (start : IdSet entity) (state : σ) (entries : log) :
    Prod.fst <$> (explore logged start state).run entries = explore visit start state := by
  rw [explore, explore]
  split
  · simp
  · exact run_exploreFrom_logged visits start start state entries

variable {ε world : Type}
  {visit : IdSet entity → σ → StateT log (StateT world (Except ε)) (List (Ident entity) × σ)}
  (holds : IdSet entity → IdSet entity → σ → log → Prop)

/-- What holds of the identifiers seen, the wave to be visited, the state and the log, and is kept by every
successful visit, holds of the outcome, when no wave is left. -/
theorem exploreFrom_keeps
    (step : ∀ {seen wave state entries before reported next more after}, wave ≠ ∅ →
      holds seen wave state entries →
      ((visit wave state).run entries).run before = .ok (((reported, next), more), after) →
      holds (seen ∪ freshAmong seen reported) (freshAmong seen reported) next more)
    {seen wave : IdSet entity} {state : σ} {entries : log} {before : world} (some_wave : wave ≠ ∅)
    (first : holds seen wave state entries) {all : IdSet entity} {last : σ} {final : log} {after : world}
    (success : ((exploreFrom visit seen wave state).run entries).run before =
      .ok (((all, last), final), after)) :
    holds all ∅ last final := by
  induction seen, wave, state using exploreFrom.induct generalizing entries before with
  | case1 seen wave state ih =>
    rw [exploreFrom, StateT.run_bind, StateT.run_bind] at success
    obtain ⟨⟨⟨⟨reported, next⟩, more⟩, between⟩, visited, success⟩ := exists_ok_of_bind success
    have kept := step some_wave first visited
    by_cases done : (freshAmong seen reported).isEmpty = true
    · simp only [dif_pos done] at success
      obtain ⟨rfl, rfl, rfl, rfl⟩ : seen = all ∧ next = last ∧ more = final ∧ between = after := by
        simpa [and_assoc] using Except.ok.inj success
      rw [Std.ExtTreeSet.isEmpty_iff] at done
      have nothing_new : seen ∪ (∅ : IdSet entity) = seen := by
        ext id
        simp [Std.ExtTreeSet.mem_union_iff]
      rwa [done, nothing_new] at kept
    · simp only [dif_neg done] at success
      exact ih reported next done (by simpa using done) kept success

theorem explore_keeps
    (step : ∀ {seen wave state entries before reported next more after}, wave ≠ ∅ →
      holds seen wave state entries →
      ((visit wave state).run entries).run before = .ok (((reported, next), more), after) →
      holds (seen ∪ freshAmong seen reported) (freshAmong seen reported) next more)
    {start : IdSet entity} {state : σ} {entries : log} {before : world}
    (first : holds start start state entries) {all : IdSet entity} {last : σ} {final : log} {after : world}
    (success : ((explore visit start state).run entries).run before =
      .ok (((all, last), final), after)) :
    holds all ∅ last final := by
  rw [explore] at success
  split at success
  · next none_there =>
    rw [Std.ExtTreeSet.isEmpty_iff] at none_there
    obtain ⟨rfl, rfl, rfl, rfl⟩ : ∅ = all ∧ state = last ∧ entries = final ∧ before = after := by
      simpa [and_assoc] using Except.ok.inj success
    exact none_there ▸ first
  · next some_there => exact exploreFrom_keeps holds step (by simpa using some_there) first success

end Explorations

/-- A call to a feed of maps: what was asked for, and what came. -/
structure Call where
  asked : IdSet .map
  answer : List NetworkMap

/-- The feed with a transcript of the calls that it has answered. -/
def transcribed {m : Type → Type} [Monad m] (feed : IdSet .map → m (List NetworkMap)) (ids : IdSet .map) :
    StateT (List Call) m (List NetworkMap) := do
  let answer ← feed ids
  modify (· ++ [⟨ids, answer⟩])
  pure answer

/-- One of the calls asks for the map. -/
def Asked (calls : List Call) (id : MapId) : Prop := ∃ call ∈ calls, id ∈ call.asked

theorem asked_concat {calls : List Call} {call : Call} {id : MapId} :
    Asked (calls ++ [call]) id ↔ Asked calls id ∨ id ∈ call.asked := by
  simp [Asked, or_and_right, exists_or]

theorem AllEntries.mono {α β : Type} [Ord α] [Std.TransOrd α] {holds more : α → β → Prop}
    {table : Std.ExtTreeMap α β} (all : AllEntries holds table)
    (weaker : ∀ key value, holds key value → more key value) : AllEntries more table :=
  fun key value found => weaker key value (all key value found)

/-- Filing rows keeps what holds of all entries and of the rows. -/
theorem AllEntries.foldl_insert {α β γ : Type} [Ord α] [Std.TransOrd α] [Std.LawfulEqOrd α]
    {holds : α → β → Prop} {table : Std.ExtTreeMap α β} (all : AllEntries holds table) {key : γ → α}
    {value : γ → β} {rows : List γ} (each : ∀ row ∈ rows, holds (key row) (value row)) :
    AllEntries holds (rows.foldl (fun table row => table.insert (key row) (value row)) table) := by
  induction rows generalizing table with
  | nil => exact all
  | cons row rest ih =>
    rw [List.forall_mem_cons] at each
    exact ih (all.insert each.1) each.2

namespace Atlas

section Transcripts

variable {m : Type → Type} [Monad m] [LawfulMonad m] (feed : IdSet .map → m (List NetworkMap))

/-- A wave is one call, which goes into the transcript. -/
theorem run_fetchWave_transcribed (wave : IdSet .map) (survey : Survey) (calls : List Call) :
    (fetchWave (transcribed feed) wave survey).run calls =
      (fun answer => ((reportOf (fun _ => answer) wave, survey.after (fun _ => answer) wave),
        calls ++ [⟨wave, answer⟩])) <$> feed wave := by
  simp [fetchWave, transcribed, reportOf, arrived, Survey.after]

theorem discover_eq_map (roots : IdSet .map) : discover feed roots =
    (fun result => { ofMaps (roots.filter (!·.isZero)) result.2.maps result.2.missing with
      waves := result.2.waves }) <$> explore (fetchWave feed) (roots.filter (!·.isZero)) ⟨∅, ∅, 0⟩ :=
  bind_pure_comp _ _

/-- A transcript does not change what is discovered. -/
theorem run_discover_transcribed (roots : IdSet .map) (calls : List Call) :
    Prod.fst <$> (discover (transcribed feed) roots).run calls = discover feed roots := by
  have visits (wave : IdSet .map) (survey : Survey) (calls : List Call) :
      Prod.fst <$> (fetchWave (transcribed feed) wave survey).run calls = fetchWave feed wave survey := by
    rw [run_fetchWave_transcribed]
    simp [fetchWave, reportOf, arrived, Survey.after]
  rw [discover_eq_map, discover_eq_map, ← run_explore_logged visits _ _ calls]
  simp

end Transcripts

/-- The survey accounts for the calls: no map was asked for twice, and every map that was asked for is
either filed, as one of the calls that asked for it brought it, or missing. -/
structure Accounted (calls : List Call) (survey : Survey) : Prop where
  once : calls.Pairwise fun earlier later => ∀ id ∈ earlier.asked, id ∉ later.asked
  asking : ∀ call ∈ calls, call.asked ≠ ∅ ∧ .zero ∉ call.asked
  brought : AllEntries (fun id map => map.id = id ∧ ∃ call ∈ calls, id ∈ call.asked ∧ map ∈ call.answer)
    survey.maps
  known : ∀ id, id ∈ survey.maps ∨ id ∈ survey.missing ↔ Asked calls id
  apart : ∀ id ∈ survey.maps, id ∉ survey.missing

section Waves

variable {answer : List NetworkMap} {wave : IdSet .map} {survey : Survey} {calls : List Call}

theorem mem_maps_after {id : MapId} : id ∈ (survey.after (fun _ => answer) wave).maps ↔
    id ∈ survey.maps ∨ id ∈ wave ∧ ∃ map ∈ answer, map.id = id := by
  rw [Survey.after, foldl_iff _ (id ∈ ·) fun maps map => by
    rw [Std.ExtTreeMap.mem_insert, Std.compare_eq_iff_eq, or_comm]]
  simp only [arrived, List.mem_filter, Std.ExtTreeSet.contains_iff_mem]
  apply or_congr_right
  constructor
  · rintro ⟨map, ⟨member, asked⟩, rfl⟩
    exact ⟨asked, map, member, rfl⟩
  · rintro ⟨asked, map, member, rfl⟩
    exact ⟨map, ⟨member, asked⟩, rfl⟩

theorem mem_missing_after {id : MapId} : id ∈ (survey.after (fun _ => answer) wave).missing ↔
    id ∈ survey.missing ∨ id ∈ wave ∧ id ∉ (survey.after (fun _ => answer) wave).maps := by
  simp [Survey.after, Std.ExtTreeSet.mem_union_iff, ← Bool.not_eq_true]

theorem mem_reportOf_iff {inner : MapId} : inner ∈ reportOf (fun _ => answer) wave ↔
    inner ≠ .zero ∧ ∃ map ∈ arrived (fun _ => answer) wave, inner ∈ map.embedded := by
  simp [reportOf, ← Bool.not_eq_true, and_comm]

theorem accounted_nil : Accounted [] ⟨∅, ∅, 0⟩ := by
  constructor <;> simp [Asked, AllEntries]

/-- A call for maps that have not been asked for is accounted for, whatever the answer. -/
theorem Accounted.call (accounted : Accounted calls survey) (some_wave : wave ≠ ∅) (nonzero : .zero ∉ wave)
    (unasked : ∀ id ∈ wave, ¬ Asked calls id) (answer : List NetworkMap) :
    Accounted (calls ++ [⟨wave, answer⟩]) (survey.after (fun _ => answer) wave) := by
  constructor
  case once =>
    refine List.pairwise_append.mpr ⟨accounted.once, List.pairwise_singleton .., ?_⟩
    intro earlier member last there id asked again
    obtain rfl := List.mem_singleton.mp there
    exact unasked id again ⟨earlier, member, asked⟩
  case asking =>
    intro call member
    rcases List.mem_append.mp member with earlier | last
    · exact accounted.asking call earlier
    · obtain rfl := List.mem_singleton.mp last
      exact ⟨some_wave, nonzero⟩
  case brought =>
    have earlier : AllEntries (fun id map => map.id = id ∧
        ∃ call ∈ calls ++ [⟨wave, answer⟩], id ∈ call.asked ∧ map ∈ call.answer) survey.maps :=
      accounted.brought.mono fun _ _ ⟨named, call, member, asked⟩ =>
        ⟨named, call, List.mem_append_left _ member, asked⟩
    refine earlier.foldl_insert fun map member => ?_
    obtain ⟨member, asked⟩ := List.mem_filter.mp member
    exact ⟨rfl, _, List.mem_concat_self, Std.ExtTreeSet.contains_iff_mem.mp asked, member⟩
  case known =>
    intro id
    rw [asked_concat, ← accounted.known, mem_missing_after, mem_maps_after]
    change _ ↔ _ ∨ id ∈ wave
    by_cases came : ∃ map ∈ answer, map.id = id <;> simp only [came, and_true, and_false] <;> tauto
  case apart =>
    intro id filed
    rw [mem_missing_after, not_or]
    refine ⟨fun missing => ?_, fun unfiled => unfiled.2 filed⟩
    rcases mem_maps_after.mp filed with earlier | ⟨here, _⟩
    · exact accounted.apart id earlier missing
    · exact unasked id here ((accounted.known id).mp (.inr missing))

/-- Where an exploration from some roots stands before a wave of calls: nothing of the wave has been asked
for, and what the filed maps embed has been asked for or is in the wave. -/
structure Frontier (roots seen wave : IdSet .map) (survey : Survey) (calls : List Call) : Prop where
  accounted : Accounted calls survey
  settled : ∀ id, id ∈ seen ↔ Asked calls id ∨ id ∈ wave
  unasked : ∀ id ∈ wave, ¬ Asked calls id
  nonzero : .zero ∉ wave
  embedded : AllEntries (fun _ map => ∀ inner ∈ map.embedded, inner ≠ .zero → inner ∈ seen) survey.maps
  started : ∀ root ∈ roots, root ∈ seen

theorem frontier_first {roots : IdSet .map} (nonzero : .zero ∉ roots) :
    Frontier roots roots roots ⟨∅, ∅, 0⟩ [] where
  accounted := accounted_nil
  settled := by simp [Asked]
  unasked := by simp [Asked]
  nonzero := nonzero
  embedded := .empty
  started _ member := member

/-- Whatever a wave of calls brings, the next wave starts from where things stand then. -/
theorem Frontier.next {roots seen : IdSet .map} (frontier : Frontier roots seen wave survey calls)
    (some_wave : wave ≠ ∅) (answer : List NetworkMap) :
    Frontier roots (seen ∪ freshAmong seen (reportOf (fun _ => answer) wave))
      (freshAmong seen (reportOf (fun _ => answer) wave)) (survey.after (fun _ => answer) wave)
      (calls ++ [⟨wave, answer⟩]) := by
  have settled (id : MapId) : id ∈ seen ↔ Asked (calls ++ [⟨wave, answer⟩]) id := by
    rw [frontier.settled, asked_concat]
  constructor
  case accounted =>
    exact frontier.accounted.call some_wave frontier.nonzero frontier.unasked answer
  case settled =>
    intro id
    rw [Std.ExtTreeSet.mem_union_iff, settled]
  case unasked =>
    intro id fresh
    rw [← settled]
    exact (mem_freshAmong.mp fresh).2
  case nonzero =>
    intro fresh
    have reported := (mem_freshAmong.mp fresh).1
    exact (mem_reportOf_iff.mp reported).1 rfl
  case embedded =>
    have earlier : AllEntries (fun _ map => ∀ inner ∈ map.embedded, inner ≠ .zero →
        inner ∈ seen ∪ freshAmong seen (reportOf (fun _ => answer) wave)) survey.maps :=
      frontier.embedded.mono fun _ _ within inner element nonzero =>
        Std.ExtTreeSet.mem_union_iff.mpr (.inl (within inner element nonzero))
    refine earlier.foldl_insert fun map member inner element nonzero => ?_
    have reported : inner ∈ reportOf (fun _ => answer) wave :=
      mem_reportOf_iff.mpr ⟨nonzero, map, member, element⟩
    rw [Std.ExtTreeSet.mem_union_iff, mem_freshAmong]
    tauto
  case started =>
    intro root member
    exact Std.ExtTreeSet.mem_union_iff.mpr (.inl (frontier.started root member))

/-- With nothing left to ask for, everything seen has been asked for. -/
theorem Frontier.mem_seen {roots seen : IdSet .map} (frontier : Frontier roots seen ∅ survey calls)
    (id : MapId) : id ∈ seen ↔ Asked calls id := by
  simpa using frontier.settled id

/-- Nested maps have been seen: the last step on the way to one goes from a filed map to a map that it
embeds. -/
theorem Frontier.mem_seen_of_nested {roots seen : IdSet .map} (frontier : Frontier roots seen wave survey calls)
    {id inner : MapId} (reached : inner ∈ (Embeddings.ofMaps survey.maps.values).nested id) : inner ∈ seen := by
  obtain ⟨outer, _, nonzero, map, member, _, element⟩ :=
    TransGen.tail'_iff.mp (Embeddings.mem_nested_ofMaps.mp reached)
  obtain ⟨key, filed⟩ := mem_values.mp member
  exact frontier.embedded key map filed inner (map.readableEmbedded_subset element) nonzero

end Waves

theorem exists_original {maps : MapTable} {id : MapId} {map : NetworkMap} (found : (close maps)[id]? = some map) :
    ∃ original, maps[id]? = some original ∧
      map = { original with submaps := (Embeddings.ofMaps maps.values).nested id } := by
  obtain ⟨original, present, rfl⟩ := Option.map_eq_some_iff.mp (getElem?_close ▸ found)
  exact ⟨original, present, rfl⟩

variable {σ : Type} {feed : IdSet .map → StateT σ (Except FeedFault) (List NetworkMap)} {roots : IdSet .map}
  {before after : σ} {atlas : Atlas}

/-- Discovery makes an atlas of what an exploration accounts for once there is nothing left to ask for. -/
theorem exists_frontier (success : (discover feed roots).run before = .ok (atlas, after)) :
    ∃ survey seen calls,
      ((discover (transcribed feed) roots).run []).run before = .ok ((atlas, calls), after) ∧
      Frontier (roots.filter (!·.isZero)) seen ∅ survey calls ∧
      atlas.maps = close survey.maps ∧ atlas.missing = survey.missing := by
  rw [← run_discover_transcribed feed roots [], StateT.run_map] at success
  obtain ⟨⟨⟨found, calls⟩, last⟩, run, same⟩ := exists_of_map_eq_ok success
  obtain ⟨rfl, rfl⟩ : found = atlas ∧ last = after := by simpa using same
  rw [discover_eq_map, StateT.run_map, StateT.run_map] at run
  obtain ⟨⟨⟨⟨seen, survey⟩, log⟩, _⟩, explored, made⟩ := exists_of_map_eq_ok run
  obtain ⟨⟨rfl, rfl⟩, rfl⟩ := by simpa only [Prod.mk.injEq] using made
  have nonzero : Ident.zero ∉ roots.filter (!·.isZero) := by simp
  refine ⟨survey, seen, log, ?_, ?_, rfl, rfl⟩
  · rw [discover_eq_map, StateT.run_map, StateT.run_map, explored]
    rfl
  · refine explore_keeps (Frontier (roots.filter (!·.isZero))) (fun some_wave frontier visited => ?_)
      (frontier_first nonzero) explored
    rw [run_fetchWave_transcribed, StateT.run_map] at visited
    obtain ⟨⟨answer, _⟩, _, answered⟩ := exists_of_map_eq_ok visited
    obtain ⟨⟨⟨rfl, rfl⟩, rfl⟩, rfl⟩ := by simpa only [Prod.mk.injEq] using answered
    exact frontier.next some_wave answer

/-- Whatever a feed of maps answers, and however its answers change from call to call, a discovery that
succeeds has asked for no map twice and never for the map that is none, and every call asked for something.
Each map that was asked for is either filed or missing: a filed map bears the identifier it is filed under
and came, up to its nested maps, in the answer to the call that asked for it. The roots and whatever filed
maps embed have all been asked for, so the nested maps of filed maps, and whatever is in scope of some of
the roots, are filed or missing as well. The scope of other maps holds nothing else but maps that it starts
from and that were never asked for. -/
theorem discover_accounts_for_calls (success : (discover feed roots).run before = .ok (atlas, after)) :
    ∃ calls : List Call,
      ((discover (transcribed feed) roots).run []).run before = .ok ((atlas, calls), after) ∧
      calls.Pairwise (fun earlier later => ∀ id ∈ earlier.asked, id ∉ later.asked) ∧
      (∀ call ∈ calls, call.asked ≠ ∅ ∧ .zero ∉ call.asked) ∧
      (∀ id : MapId, id ∈ atlas.maps ∨ id ∈ atlas.missing ↔ Asked calls id) ∧
      (∀ id ∈ atlas.maps, id ∉ atlas.missing) ∧
      (∀ (id : MapId) (map : NetworkMap), atlas.maps[id]? = some map →
        map.id = id ∧
        (∃ call ∈ calls, id ∈ call.asked ∧
          ∃ original ∈ call.answer, map = { original with submaps := map.submaps }) ∧
        (∀ inner ∈ map.embedded, inner ≠ .zero → Asked calls inner) ∧
        ∀ inner ∈ map.submaps, inner ∈ atlas.maps ∨ inner ∈ atlas.missing) ∧
      (∀ root ∈ roots, root ≠ .zero → Asked calls root) ∧
      (∀ starts : List MapId, (∀ start ∈ starts, start ∈ roots) →
        ∀ id ∈ atlas.expandScope starts, id ∈ atlas.maps ∨ id ∈ atlas.missing) ∧
      ∀ starts : List MapId, ∀ id ∈ atlas.expandScope starts,
        id ∈ atlas.maps ∨ id ∈ atlas.missing ∨ id ∈ starts ∧ ¬ Asked calls id := by
  obtain ⟨survey, seen, calls, run, frontier, maps, missing⟩ := exists_frontier success
  have accounted := frontier.accounted
  have known (id : MapId) : id ∈ atlas.maps ∨ id ∈ atlas.missing ↔ Asked calls id := by
    rw [maps, missing, mem_close, accounted.known]
  have nested (id : MapId) (map : NetworkMap) (found : atlas.maps[id]? = some map) (inner : MapId)
      (reached : inner ∈ map.submaps) : inner ∈ atlas.maps ∨ inner ∈ atlas.missing := by
    obtain ⟨original, _, rfl⟩ := exists_original (maps ▸ found)
    rw [known, ← frontier.mem_seen]
    exact frontier.mem_seen_of_nested reached
  have started (root : MapId) (member : root ∈ roots) (nonzero : root ≠ .zero) : Asked calls root := by
    refine (frontier.mem_seen root).mp (frontier.started root ?_)
    simp [member, nonzero, ← Bool.not_eq_true]
  have scope (starts : List MapId) (id : MapId) (within : id ∈ atlas.expandScope starts) :
      id ∈ atlas.maps ∨ id ∈ atlas.missing ∨ id ∈ starts ∧ id ≠ .zero ∧ ¬ Asked calls id := by
    obtain ⟨root, member, nonzero, rfl | inner⟩ := mem_expandScope.mp within
    · rw [← or_assoc, known]
      tauto
    · rw [submaps] at inner
      split at inner
      · next map found => exact (nested root map found id inner).imp_right .inl
      · simp at inner
  refine ⟨calls, run, accounted.once, accounted.asking, known, ?apart, ?filed, started, ?ofRoots, ?ofOthers⟩
  case apart =>
    intro id filed
    rw [maps, mem_close] at filed
    exact missing ▸ accounted.apart id filed
  case filed =>
    intro id map found
    obtain ⟨original, present, same⟩ := exists_original (maps ▸ found)
    obtain ⟨named, call, member, here, came⟩ := accounted.brought id original present
    refine ⟨same ▸ named, ⟨call, member, here, original, came, ?_⟩, ?_, nested id map found⟩
    · rw [same]
    · intro inner element nonzero
      rw [same] at element
      exact (frontier.mem_seen inner).mp (frontier.embedded id original present inner element nonzero)
  case ofRoots =>
    intro starts within id member
    rcases scope starts id member with filed | missing | ⟨start, nonzero, unasked⟩
    · exact .inl filed
    · exact .inr missing
    · exact absurd (started id (within id start) nonzero) unasked
  case ofOthers =>
    intro starts id member
    rcases scope starts id member with filed | missing | ⟨start, _, unasked⟩
    · exact .inl filed
    · exact .inr (.inl missing)
    · exact .inr (.inr ⟨start, unasked⟩)

/-- A feed that counts its calls. The first answer holds two maps 1 and a map 5, whatever was asked for, and
later answers a map 3 that embeds map 1 in turn. -/
def capricious (_ : IdSet .map) : StateT Nat (Except FeedFault) (List NetworkMap) := do
  let count ← get
  set (count + 1)
  if count = 0 then
    pure [.embedding ⟨1⟩ .deny [⟨2⟩, ⟨0⟩], .embedding ⟨5⟩ .read [⟨6⟩], .embedding ⟨1⟩ .read [⟨3⟩]]
  else pure [.embedding ⟨3⟩ .read [⟨1⟩, ⟨4⟩], .embedding ⟨1⟩ .read [⟨7⟩]]

/-- Both maps 1 are followed, but only the last is filed, and nothing comes of map 5. -/
theorem discover_accounts_for_calls_capricious :
    ∃ atlas after, (discover capricious {⟨0⟩, ⟨1⟩}).run 0 = .ok (atlas, after) ∧
      ∃ calls : List Call,
        ((discover (transcribed capricious) {⟨0⟩, ⟨1⟩}).run []).run 0 = .ok ((atlas, calls), after) ∧
        (∀ id : MapId, id ∈ atlas.maps ∨ id ∈ atlas.missing ↔ Asked calls id) ∧
        calls.map (·.asked.toList) = [[⟨1⟩], [⟨2⟩, ⟨3⟩], [⟨4⟩]] ∧
        atlas.maps.keys = [⟨1⟩, ⟨3⟩] ∧ atlas.missing.toList = [⟨2⟩, ⟨4⟩] ∧
        (atlas.submaps ⟨1⟩).toList = [⟨1⟩, ⟨3⟩, ⟨4⟩] := by
  have shown : (((discover (transcribed capricious) {⟨0⟩, ⟨1⟩}).run []).run 0).toOption.map (fun result =>
      (result.1.2.map (·.asked.toList), result.1.1.maps.keys, result.1.1.missing.toList,
        (result.1.1.submaps ⟨1⟩).toList)) =
        some ([[⟨1⟩], [⟨2⟩, ⟨3⟩], [⟨4⟩]], [⟨1⟩, ⟨3⟩], [⟨2⟩, ⟨4⟩], [⟨1⟩, ⟨3⟩, ⟨4⟩]) := by
    decide +kernel
  have succeeds : ((discover capricious {⟨0⟩, ⟨1⟩}).run 0).toOption.isSome = true := by decide +kernel
  cases run : (discover capricious {⟨0⟩, ⟨1⟩}).run 0 with
  | error fault =>
    rw [run] at succeeds
    cases succeeds
  | ok result =>
    obtain ⟨calls, transcript, _, _, known, _⟩ := discover_accounts_for_calls run
    rw [transcript] at shown
    simp only [Except.toOption, Option.map_some, Option.some.injEq, Prod.mk.injEq] at shown
    exact ⟨result.1, result.2, rfl, calls, transcript, known, shown⟩

end Atlas

end ProblemBoard
