import Mathlib.Data.Nat.Find
import Mathlib.Data.Set.Basic
import Mathlib.Logic.Relation

/-! # Distances from some starting points

A point lies at distance `k` when `k` steps lead to it from a start, and fewer do not. Every point
that can be reached has exactly one distance, and distances leave no gap: the way to a point passes
through every smaller distance. The rule `AtDistance.succ_iff` is what a search in waves follows.
-/

namespace ProblemBoard

variable {α : Type*} {step : α → α → Prop} {starts : Set α}

/-- Some start leads to the point by exactly the given number of steps. -/
inductive ReachedIn (step : α → α → Prop) (starts : Set α) : Nat → α → Prop
  | start {point : α} (first : point ∈ starts) : ReachedIn step starts 0 point
  | step {count : Nat} {before after : α} (reached : ReachedIn step starts count before)
      (last : step before after) : ReachedIn step starts (count + 1) after

/-- Some start leads to the point, by any number of steps. -/
def Reached (step : α → α → Prop) (starts : Set α) (point : α) : Prop :=
  ∃ start ∈ starts, Relation.ReflTransGen step start point

/-- The shortest way from a start to the point has the given number of steps. -/
def AtDistance (step : α → α → Prop) (starts : Set α) (distance : Nat) (point : α) : Prop :=
  ReachedIn step starts distance point ∧ ∀ fewer < distance, ¬ ReachedIn step starts fewer point

theorem reached_iff_exists_reachedIn {point : α} :
    Reached step starts point ↔ ∃ count, ReachedIn step starts count point := by
  constructor
  · rintro ⟨start, first, way⟩
    induction way with
    | refl => exact ⟨0, .start first⟩
    | tail _ last ih =>
      obtain ⟨count, reached⟩ := ih
      exact ⟨count + 1, reached.step last⟩
  · rintro ⟨count, reached⟩
    induction reached with
    | start first => exact ⟨_, first, .refl⟩
    | step _ last ih =>
      obtain ⟨start, first, way⟩ := ih
      exact ⟨start, first, way.tail last⟩

theorem Reached.tail {before after : α} (reached : Reached step starts before)
    (last : step before after) : Reached step starts after := by
  obtain ⟨start, first, way⟩ := reached
  exact ⟨start, first, way.tail last⟩

namespace AtDistance

theorem reached {distance : Nat} {point : α} (shortest : AtDistance step starts distance point) :
    Reached step starts point :=
  reached_iff_exists_reachedIn.mpr ⟨distance, shortest.1⟩

theorem exists_of_reachedIn {count : Nat} {point : α} (reached : ReachedIn step starts count point) :
    ∃ distance ≤ count, AtDistance step starts distance point := by
  classical
  have some_count : ∃ count, ReachedIn step starts count point := ⟨count, reached⟩
  exact ⟨Nat.find some_count, Nat.find_min' some_count reached, Nat.find_spec some_count,
    fun _ fewer => Nat.find_min some_count fewer⟩

/-- Whatever can be reached has a distance. -/
theorem exists_iff_reached {point : α} :
    (∃ distance, AtDistance step starts distance point) ↔ Reached step starts point := by
  constructor
  · rintro ⟨distance, shortest⟩
    exact shortest.reached
  · intro reached
    obtain ⟨count, counted⟩ := reached_iff_exists_reachedIn.mp reached
    obtain ⟨distance, _, shortest⟩ := exists_of_reachedIn counted
    exact ⟨distance, shortest⟩

theorem unique {distance other : Nat} {point : α} (shortest : AtDistance step starts distance point)
    (alsoShortest : AtDistance step starts other point) : distance = other := by
  rcases Nat.lt_trichotomy distance other with below | same | above
  · exact absurd shortest.1 (alsoShortest.2 distance below)
  · exact same
  · exact absurd alsoShortest.1 (shortest.2 other above)

theorem zero_iff {point : α} : AtDistance step starts 0 point ↔ point ∈ starts := by
  constructor
  · rintro ⟨reached, _⟩
    cases reached with
    | start first => exact first
  · intro first
    exact ⟨.start first, fun fewer below => absurd below (Nat.not_lt_zero fewer)⟩

/-- A point is one step further than another unless it has a smaller distance of its own. -/
theorem succ_iff {distance : Nat} {point : α} :
    AtDistance step starts (distance + 1) point ↔
      (∃ before, AtDistance step starts distance before ∧ step before point) ∧
        ∀ smaller ≤ distance, ¬ AtDistance step starts smaller point := by
  constructor
  · rintro ⟨reached, shortest⟩
    refine ⟨?_, fun smaller bound atSmaller => shortest smaller (by omega) atSmaller.1⟩
    cases reached with
    | @step _ before _ reached last =>
      refine ⟨before, ⟨reached, fun fewer below reachedEarlier => ?_⟩, last⟩
      exact shortest (fewer + 1) (by omega) (reachedEarlier.step last)
  · rintro ⟨⟨before, atBefore, last⟩, far⟩
    refine ⟨atBefore.1.step last, fun fewer below reached => ?_⟩
    obtain ⟨smaller, bound, atSmaller⟩ := exists_of_reachedIn reached
    exact far smaller (by omega) atSmaller

/-- Distances leave no gap. -/
theorem exists_of_le {distance smaller : Nat} {point : α}
    (shortest : AtDistance step starts distance point) (bound : smaller ≤ distance) :
    ∃ between, AtDistance step starts smaller between := by
  induction distance generalizing point with
  | zero =>
    obtain rfl : smaller = 0 := by omega
    exact ⟨point, shortest⟩
  | succ distance ih =>
    by_cases same : smaller = distance + 1
    · exact ⟨point, same ▸ shortest⟩
    · obtain ⟨⟨before, atBefore, _⟩, _⟩ := succ_iff.mp shortest
      exact ih atBefore (by omega)

end AtDistance

end ProblemBoard
