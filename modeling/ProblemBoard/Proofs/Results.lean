import Mathlib.Data.List.Basic

/-! # Results of steps and loops that may fail

What the result of a whole says about the results of its parts: two steps one after the other, a step for each
element of a list, and a loop that carries a state along.
-/

namespace ProblemBoard

variable {ε φ α β σ : Type}

section Steps

@[simp] theorem mapError_ok (change : ε → φ) (value : α) :
    (Except.ok value : Except ε α).mapError change = .ok value := rfl

@[simp] theorem mapError_error (change : ε → φ) (fault : ε) :
    (Except.error fault : Except ε α).mapError change = .error (change fault) := rfl

/-- Two steps that succeed one after the other succeed each. -/
theorem exists_ok_of_bind {first : Except ε α} {next : α → Except ε β} {result : β}
    (success : first >>= next = .ok result) : ∃ value, first = .ok value ∧ next value = .ok result := by
  cases first with
  | error fault => cases success
  | ok value => exact ⟨value, rfl, success⟩

/-- Two steps succeed one after the other if the first does, and the second whatever the first gives. -/
theorem exists_bind_ok {first : Except ε α} {next : α → Except ε β} (begins : ∃ value, first = .ok value)
    (goes : ∀ value, ∃ result, next value = .ok result) : ∃ result, first >>= next = .ok result := by
  obtain ⟨value, rfl⟩ := begins
  exact goes value

theorem exists_ok_of_map {result : Except ε α} {change : α → β} {value : β}
    (success : result.map change = .ok value) : ∃ first, result = .ok first := by
  cases result with
  | error fault => cases success
  | ok first => exact ⟨first, rfl⟩

/-- A changed result is the change of a result. -/
theorem exists_of_map_eq_ok {result : Except ε α} {change : α → β} {value : β}
    (success : change <$> result = .ok value) : ∃ first, result = .ok first ∧ change first = value := by
  cases result with
  | error fault => cases success
  | ok first => exact ⟨first, rfl, Except.ok.inj success⟩

end Steps

section Loops

/-- A list is worked off without a fault if each of its values is. -/
theorem mapM_eq_ok {act : α → Except ε β} {change : α → β} {values : List α}
    (each : ∀ value ∈ values, act value = .ok (change value)) :
    values.mapM act = .ok (values.map change) := by
  induction values with
  | nil => rfl
  | cons value rest step =>
    rw [List.mapM_cons, each value (List.mem_cons_self ..),
      step fun other member => each other (List.mem_cons_of_mem _ member)]
    rfl

theorem exists_ok_of_mapM {act : α → Except ε β} {values : List α} {results : List β}
    (success : values.mapM act = .ok results) : ∀ value ∈ values, ∃ result, act value = .ok result := by
  induction values generalizing results with
  | nil => simp
  | cons value rest step =>
    rw [List.mapM_cons] at success
    obtain ⟨result, first, success⟩ := exists_ok_of_bind success
    obtain ⟨more, others, _⟩ := exists_ok_of_bind success
    exact List.forall_mem_cons.mpr ⟨⟨result, first⟩, step others⟩

theorem exists_error_of_mapM {act : α → Except ε β} {values : List α} {fault : ε}
    (failure : values.mapM act = .error fault) : ∃ value ∈ values, act value = .error fault := by
  induction values with
  | nil => cases failure
  | cons value rest step =>
    rw [List.mapM_cons] at failure
    cases first : act value with
    | error reason =>
      rw [first] at failure
      obtain rfl := Except.error.inj failure
      exact ⟨value, List.mem_cons_self .., first⟩
    | ok result =>
      rw [first] at failure
      cases others : rest.mapM act with
      | error reason =>
        rw [others] at failure
        obtain rfl := Except.error.inj failure
        obtain ⟨later, member, failed⟩ := step others
        exact ⟨later, List.mem_cons_of_mem _ member, failed⟩
      | ok results =>
        rw [others] at failure
        cases failure

theorem forM_eq_ok_iff {act : α → Except ε PUnit} {values : List α} :
    values.forM act = .ok () ↔ ∀ value ∈ values, act value = .ok () := by
  induction values with
  | nil => simp [pure, Except.pure]
  | cons value rest step =>
    rw [List.forM_eq_forM, List.forM_cons, List.forall_mem_cons, ← step]
    cases act value with
    | error fault => simp [bind, Except.bind]
    | ok => simp [bind, Except.bind]

theorem forM_congr {act other : α → Except ε PUnit} {values : List α}
    (each : ∀ value ∈ values, act value = other value) : values.forM act = values.forM other := by
  induction values with
  | nil => rfl
  | cons value rest step =>
    rw [List.forall_mem_cons] at each
    rw [List.forM_eq_forM, List.forM_cons, List.forM_cons, each.1]
    exact congrArg (_ >>= fun _ => ·) (step each.2)

/-- A loop fails with the fault of the first element that is at fault. -/
theorem forM_eq_error_iff {act : α → Except ε PUnit} {values : List α} {fault : ε} :
    values.forM act = .error fault ↔ ∃ before value after, values = before ++ value :: after ∧
      (∀ earlier ∈ before, act earlier = .ok ()) ∧ act value = .error fault := by
  induction values with
  | nil => simp [pure, Except.pure]
  | cons first rest step =>
    rw [List.forM_eq_forM, List.forM_cons]
    cases acted : act first with
    | error reason =>
      constructor
      · intro failed
        exact ⟨[], first, rest, rfl, by simp, acted.trans failed⟩
      · rintro ⟨before, value, after, split, earlier, failed⟩
        cases before with
        | nil =>
          obtain ⟨rfl, rfl⟩ := List.cons.inj split
          exact acted.symm.trans failed
        | cons head tail =>
          obtain ⟨rfl, rfl⟩ := List.cons.inj split
          have fine := earlier first (List.mem_cons_self ..)
          rw [acted] at fine
          cases fine
    | ok =>
      change rest.forM act = .error fault ↔ _
      rw [step]
      constructor
      · rintro ⟨before, value, after, rfl, earlier, failed⟩
        exact ⟨first :: before, value, after, rfl, List.forall_mem_cons.mpr ⟨acted, earlier⟩, failed⟩
      · rintro ⟨before, value, after, split, earlier, failed⟩
        cases before with
        | nil =>
          obtain ⟨rfl, rfl⟩ := List.cons.inj split
          rw [acted] at failed
          cases failed
        | cons head tail =>
          obtain ⟨rfl, rfl⟩ := List.cons.inj split
          exact ⟨tail, value, after, rfl, (List.forall_mem_cons.mp earlier).2, failed⟩

/-- The results of a list are the results of its values. -/
theorem mem_iff_of_mapM {act : α → Except ε β} {values : List α} {results : List β}
    (success : values.mapM act = .ok results) {result : β} :
    result ∈ results ↔ ∃ value ∈ values, act value = .ok result := by
  induction values generalizing results with
  | nil =>
    cases success
    simp
  | cons value rest step =>
    rw [List.mapM_cons] at success
    obtain ⟨first, given, success⟩ := exists_ok_of_bind success
    obtain ⟨others, later, success⟩ := exists_ok_of_bind success
    cases success
    simp [given, step later, eq_comm]

theorem forall₂_of_mapM {act : α → Except ε β} {values : List α} {results : List β}
    (success : values.mapM act = .ok results) :
    List.Forall₂ (fun value result => act value = .ok result) values results := by
  induction values generalizing results with
  | nil =>
    cases success
    exact .nil
  | cons value rest step =>
    rw [List.mapM_cons] at success
    obtain ⟨first, given, success⟩ := exists_ok_of_bind success
    obtain ⟨others, later, success⟩ := exists_ok_of_bind success
    cases success
    exact .cons given (step later)

theorem mapM_of_forall₂ {act : α → Except ε β} {values : List α} {results : List β}
    (each : List.Forall₂ (fun value result => act value = .ok result) values results) :
    values.mapM act = .ok results := by
  induction each with
  | nil => rfl
  | cons given _ rest =>
    rw [List.mapM_cons, given, rest]
    rfl

theorem mapM_congr {act other : α → Except ε β} {values : List α}
    (each : ∀ value ∈ values, act value = other value) : values.mapM act = values.mapM other := by
  induction values with
  | nil => rfl
  | cons value rest step =>
    rw [List.forall_mem_cons] at each
    rw [List.mapM_cons, List.mapM_cons, each.1, step each.2]

/-- A list is worked off up to the first value that is at fault. -/
theorem mapM_eq_error_iff {act : α → Except ε β} {values : List α} {fault : ε} :
    values.mapM act = .error fault ↔ ∃ before value after, values = before ++ value :: after ∧
      (∀ earlier ∈ before, ∃ result, act earlier = .ok result) ∧ act value = .error fault := by
  have looped : (values.mapM act).map (fun _ => ()) = values.forM fun value => (act value).map fun _ => () := by
    induction values with
    | nil => rfl
    | cons value rest step =>
      rw [List.mapM_cons, List.forM_eq_forM, List.forM_cons, ← List.forM_eq_forM, ← step]
      cases act value with
      | error fault => rfl
      | ok result => cases rest.mapM act <;> rfl
  have unmapped {γ : Type} (result : Except ε γ) :
      result.map (fun _ => ()) = .error fault ↔ result = .error fault := by
    cases result <;> simp [Except.map]
  have finished (value : α) : (act value).map (fun _ => ()) = .ok () ↔ ∃ result, act value = .ok result := by
    cases act value <;> simp [Except.map]
  rw [← unmapped, looped, forM_eq_error_iff]
  simp only [unmapped, finished]

/-- To pick some values and work them off is to work off those that can be picked. -/
theorem mapM_filterMap {γ : Type} {pick : α → Option γ} {act : γ → Except ε β} {values : List α} :
    (values.filterMap pick).mapM act =
      (values.mapM fun value => (pick value).elim (pure none) fun picked => some <$> act picked).map
        (·.filterMap id) := by
  induction values with
  | nil => rfl
  | cons value rest step =>
    rw [List.mapM_cons, List.filterMap_cons]
    cases pick value with
    | none =>
      rw [step]
      cases rest.mapM fun value => (pick value).elim (pure none) fun picked => some <$> act picked <;> rfl
    | some picked =>
      simp only [List.mapM_cons, step, Option.elim_some]
      cases act picked with
      | error fault => rfl
      | ok result =>
        cases rest.mapM fun value => (pick value).elim (pure none) fun picked => some <$> act picked <;> rfl

/-- A list is worked off if each of its values can be. -/
theorem exists_mapM_ok {act : α → Except ε β} {values : List α}
    (each : ∀ value ∈ values, ∃ result, act value = .ok result) : ∃ results, values.mapM act = .ok results := by
  cases worked : values.mapM act with
  | ok results => exact ⟨results, rfl⟩
  | error fault =>
    obtain ⟨value, member, failed⟩ := exists_error_of_mapM worked
    obtain ⟨result, given⟩ := each value member
    rw [failed] at given
    cases given

/-- What holds of a state and is kept by every step holds after the loop. -/
theorem keeps_of_foldlM {step : σ → α → Except ε σ} {holds : σ → Prop}
    (each : ∀ state value next, holds state → step state value = .ok next → holds next) {values : List α}
    {state after : σ} (before : holds state) (success : values.foldlM step state = .ok after) : holds after := by
  induction values generalizing state with
  | nil => exact Except.ok.inj success ▸ before
  | cons value rest ih =>
    rw [List.foldlM_cons] at success
    obtain ⟨next, stepped, success⟩ := exists_ok_of_bind success
    exact ih (each state value next before stepped) success

/-- Every step of a loop that succeeds has succeeded somewhere on the way. -/
theorem exists_step_of_foldlM {step : σ → α → Except ε σ} {values : List α} {store after : σ}
    (success : values.foldlM step store = .ok after) :
    ∀ value ∈ values, ∃ before changed, step before value = .ok changed := by
  induction values generalizing store with
  | nil => simp
  | cons first rest ih =>
    rw [List.foldlM_cons] at success
    obtain ⟨changed, stepped, success⟩ := exists_ok_of_bind success
    exact List.forall_mem_cons.mpr ⟨⟨store, changed, stepped⟩, ih success⟩

end Loops

end ProblemBoard
