import ProblemBoard.Exploration
import ProblemBoard.Proofs.Distance
import ProblemBoard.Proofs.Tables

/-! # Explorations go in waves of equal distance

What an exploration does is settled by what each visit reports: it visits a list of waves one after
the other, and neither the state nor the effects of the visits change that list. When the report of
a wave lists what is one step further, the wave at place `k` holds exactly the identifiers at
distance `k` from the start.
-/

namespace ProblemBoard

variable {entity : Entity}

/-- The waves that follow from one wave, given what the visit of a wave reports. -/
def laterWaves (report : IdSet entity → List (Ident entity)) (seen wave : IdSet entity) :
    List (IdSet entity) :=
  if _done : (freshAmong seen (report wave)).isEmpty then []
  else
    freshAmong seen (report wave) ::
      laterWaves report (seen ∪ freshAmong seen (report wave)) (freshAmong seen (report wave))
  termination_by UInt64.size - seen.size
  decreasing_by
    have more := size_lt_of_fresh _done
    have bound := IdSet.size_le (seen ∪ freshAmong seen (report wave))
    omega

/-- All waves of an exploration. -/
def wavesOf (report : IdSet entity → List (Ident entity)) (start : IdSet entity) :
    List (IdSet entity) :=
  if start.isEmpty then [] else start :: laterWaves report start start

section Effects

variable {m : Type → Type} [Monad m] [LawfulMonad m] {σ : Type}
  {visit : IdSet entity → σ → m (List (Ident entity) × σ)}
  {act : IdSet entity → σ → m σ} {report : IdSet entity → List (Ident entity)}

theorem exploreFrom_eq (visits : ∀ wave state, visit wave state = (report wave, ·) <$> act wave state)
    (seen wave : IdSet entity) (state : σ) :
    exploreFrom visit seen wave state =
      ((laterWaves report seen wave).foldl (· ∪ ·) seen, ·) <$>
        (wave :: laterWaves report seen wave).foldlM (fun state wave => act wave state) state := by
  induction seen, wave using laterWaves.induct report generalizing state with
  | case1 seen wave done =>
    rw [exploreFrom, laterWaves, dif_pos done]
    simp only [visits, bind_map_left, dif_pos done, List.foldlM_cons, List.foldlM_nil, List.foldl_nil,
      bind_pure]
    exact bind_pure_comp _ _
  | case2 seen wave more ih =>
    rw [exploreFrom, laterWaves, dif_neg more]
    simp only [visits, bind_map_left, dif_neg more, ih, List.foldlM_cons, List.foldl_cons, map_bind]

/-- An exploration performs the visits of its waves in order, and has seen what the waves hold. -/
theorem explore_eq (visits : ∀ wave state, visit wave state = (report wave, ·) <$> act wave state)
    (start : IdSet entity) (state : σ) :
    explore visit start state =
      ((wavesOf report start).foldl (· ∪ ·) ∅, ·) <$>
        (wavesOf report start).foldlM (fun state wave => act wave state) state := by
  rw [explore, wavesOf]
  split
  · simp
  · have same : (∅ : IdSet entity) ∪ start = start := by
      ext id
      simp [Std.ExtTreeSet.mem_union_iff]
    rw [exploreFrom_eq visits, List.foldl_cons, same]

end Effects

theorem mem_foldl_union {sets : List (IdSet entity)} {seen : IdSet entity} {id : Ident entity} :
    id ∈ sets.foldl (· ∪ ·) seen ↔ id ∈ seen ∨ ∃ set ∈ sets, id ∈ set :=
  foldl_iff _ (id ∈ ·) fun _ _ => Std.ExtTreeSet.mem_union_iff

theorem mem_freshAmong {seen : IdSet entity} {reported : List (Ident entity)} {id : Ident entity} :
    id ∈ freshAmong seen reported ↔ id ∈ reported ∧ id ∉ seen := by
  simp [freshAmong, Std.ExtTreeSet.mem_diff_iff, Std.ExtTreeSet.mem_ofList]

section Distances

variable {step : Ident entity → Ident entity → Prop} {starts : Set (Ident entity)}
  {report : IdSet entity → List (Ident entity)}

/-- The next wave after the one at some distance is the one at the next distance. -/
theorem mem_freshAmong_iff_atDistance
    (reports : ∀ wave id, id ∈ report wave ↔ ∃ before ∈ wave, step before id) {distance : Nat}
    {seen wave : IdSet entity} (at_wave : ∀ id, id ∈ wave ↔ AtDistance step starts distance id)
    (at_seen : ∀ id, id ∈ seen ↔ ∃ smaller ≤ distance, AtDistance step starts smaller id)
    (id : Ident entity) :
    id ∈ freshAmong seen (report wave) ↔ AtDistance step starts (distance + 1) id := by
  rw [mem_freshAmong, reports, at_seen, AtDistance.succ_iff]
  simp only [at_wave, not_exists, not_and]

theorem mem_laterWaves_iff_atDistance
    (reports : ∀ wave id, id ∈ report wave ↔ ∃ before ∈ wave, step before id) {distance : Nat}
    {seen wave : IdSet entity} (at_wave : ∀ id, id ∈ wave ↔ AtDistance step starts distance id)
    (at_seen : ∀ id, id ∈ seen ↔ ∃ smaller ≤ distance, AtDistance step starts smaller id)
    (place : Nat) (id : Ident entity) :
    (∃ later, (laterWaves report seen wave)[place]? = some later ∧ id ∈ later) ↔
      AtDistance step starts (distance + 1 + place) id := by
  have at_fresh := mem_freshAmong_iff_atDistance reports at_wave at_seen
  induction seen, wave using laterWaves.induct report generalizing distance place with
  | case1 seen wave done =>
    rw [laterWaves, dif_pos done]
    -- Nothing is one step further, so nothing is further still.
    have none_next : ∀ next, ¬ AtDistance step starts (distance + 1) next := by
      intro next at_next
      rw [Std.ExtTreeSet.isEmpty_iff] at done
      exact Std.ExtTreeSet.not_mem_empty (done ▸ (at_fresh next).mpr at_next)
    constructor
    · rintro ⟨later, found, _⟩
      simp at found
    · intro further
      obtain ⟨next, at_next⟩ := further.exists_of_le (show distance + 1 ≤ _ by omega)
      exact absurd at_next (none_next next)
  | case2 seen wave more ih =>
    rw [laterWaves, dif_neg more]
    cases place with
    | zero => simp [at_fresh]
    | succ place =>
      rw [List.getElem?_cons_succ, show distance + 1 + (place + 1) = distance + 1 + 1 + place by omega]
      have at_next : ∀ id, id ∈ seen ∪ freshAmong seen (report wave) ↔
          ∃ smaller ≤ distance + 1, AtDistance step starts smaller id := by
        intro id
        rw [Std.ExtTreeSet.mem_union_iff, at_seen, at_fresh]
        constructor
        · rintro (⟨smaller, bound, at_smaller⟩ | at_id)
          · exact ⟨smaller, by omega, at_smaller⟩
          · exact ⟨distance + 1, le_rfl, at_id⟩
        · rintro ⟨smaller, bound, at_smaller⟩
          rcases Nat.lt_or_eq_of_le bound with below | rfl
          · exact .inl ⟨smaller, by omega, at_smaller⟩
          · exact .inr at_smaller
      exact ih at_fresh at_next place
        (mem_freshAmong_iff_atDistance reports at_fresh at_next)

/-- The wave at place `k` holds the identifiers at distance `k`, and past the last wave there is
none. -/
theorem mem_wavesOf_iff_atDistance
    (reports : ∀ wave id, id ∈ report wave ↔ ∃ before ∈ wave, step before id) (start : IdSet entity)
    (place : Nat) (id : Ident entity) :
    (∃ wave, (wavesOf report start)[place]? = some wave ∧ id ∈ wave) ↔
      AtDistance step {id | id ∈ start} place id := by
  have at_start (id : Ident entity) : id ∈ start ↔ AtDistance step {id | id ∈ start} 0 id := by
    rw [AtDistance.zero_iff, Set.mem_ofPred_eq]
  rw [wavesOf]
  split
  · next empty =>
    constructor
    · rintro ⟨wave, found, _⟩
      simp at found
    · intro at_id
      obtain ⟨first, at_first⟩ := at_id.exists_of_le (Nat.zero_le place)
      rw [Std.ExtTreeSet.isEmpty_iff] at empty
      exact absurd ((at_start first).mpr at_first) (empty ▸ Std.ExtTreeSet.not_mem_empty)
  · cases place with
    | zero => simpa using at_start id
    | succ place =>
      rw [List.getElem?_cons_succ, Nat.add_comm place 1, ← Nat.zero_add 1]
      refine mem_laterWaves_iff_atDistance reports at_start (fun id => ?_) place id
      rw [at_start id]
      simp

/-- The waves together hold everything that can be reached. -/
theorem exists_mem_wavesOf_iff_reached
    (reports : ∀ wave id, id ∈ report wave ↔ ∃ before ∈ wave, step before id) (start : IdSet entity)
    (id : Ident entity) :
    (∃ wave ∈ wavesOf report start, id ∈ wave) ↔ Reached step {id | id ∈ start} id := by
  rw [← AtDistance.exists_iff_reached]
  simp only [← mem_wavesOf_iff_atDistance reports start, List.mem_iff_getElem?]
  constructor
  · rintro ⟨wave, ⟨place, found⟩, member⟩
    exact ⟨place, wave, found, member⟩
  · rintro ⟨place, wave, found, member⟩
    exact ⟨wave, ⟨place, found⟩, member⟩

/-- Visits that do nothing but report find what can be reached. -/
theorem mem_explore_iff_reached
    (reports : ∀ wave id, id ∈ report wave ↔ ∃ before ∈ wave, step before id) (start : IdSet entity)
    (id : Ident entity) :
    id ∈ (explore (m := Id) (fun wave _ => (report wave, ())) start ()).1 ↔
      Reached step {id | id ∈ start} id := by
  have visits (wave : IdSet entity) (state : Unit) :
      (report wave, ()) = (report wave, ·) <$> (pure () : Id Unit) := rfl
  rw [explore_eq visits, ← exists_mem_wavesOf_iff_reached reports start]
  change id ∈ (wavesOf report start).foldl (· ∪ ·) ∅ ↔ _
  simp [mem_foldl_union]

end Distances

theorem laterWaves_ne_empty {report : IdSet entity → List (Ident entity)} {seen wave : IdSet entity} :
    ∀ later ∈ laterWaves report seen wave, later ≠ ∅ := by
  induction seen, wave using laterWaves.induct report with
  | case1 seen wave done => simp [laterWaves, done]
  | case2 seen wave more ih =>
    rw [laterWaves, dif_neg more]
    intro later member
    rcases List.mem_cons.mp member with rfl | member
    · simpa using more
    · exact ih later member

theorem wavesOf_ne_empty {report : IdSet entity → List (Ident entity)} {start : IdSet entity} :
    ∀ wave ∈ wavesOf report start, wave ≠ ∅ := by
  rw [wavesOf]
  split
  · simp
  · next some_start =>
    intro wave member
    rcases List.mem_cons.mp member with rfl | member
    · simpa using some_start
    · exact laterWaves_ne_empty wave member

end ProblemBoard
