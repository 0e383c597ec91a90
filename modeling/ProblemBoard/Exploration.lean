import ProblemBoard.Ident

/-! # Exploring in waves

An exploration starts from a set of identifiers and visits them all at once; a visit reports
identifiers, of which those never seen before make up the next wave. It ends with the first wave
that reports nothing new. Every identifier is visited at most once, and there are only finitely many,
so every exploration ends, whatever the visits report.
-/

namespace ProblemBoard

variable {m : Type → Type} [Monad m] {entity : Entity} {σ : Type}

/-- The reported identifiers that were not seen before. -/
def freshAmong (seen : IdSet entity) (reported : List (Ident entity)) : IdSet entity :=
  Std.ExtTreeSet.ofList reported \ seen

theorem size_lt_of_fresh {seen : IdSet entity} {reported : List (Ident entity)}
    (some_fresh : ¬ (freshAmong seen reported).isEmpty = true) :
    seen.size < (seen ∪ freshAmong seen reported).size :=
  IdSet.size_lt_size_union (by simpa using some_fresh) fun _ known fresh =>
    (Std.ExtTreeSet.mem_diff_iff.mp fresh).2 known

/-- Visit one wave and those that follow from it. `seen` holds all identifiers of this wave and the
waves before; the result holds all identifiers ever seen. -/
def exploreFrom (visit : IdSet entity → σ → m (List (Ident entity) × σ))
    (seen wave : IdSet entity) (state : σ) : m (IdSet entity × σ) := do
  let (reported, state) ← visit wave state
  if _done : (freshAmong seen reported).isEmpty then pure (seen, state)
  else exploreFrom visit (seen ∪ freshAmong seen reported) (freshAmong seen reported) state
  termination_by UInt64.size - seen.size
  decreasing_by
    have more := size_lt_of_fresh _done
    have bound := IdSet.size_le (seen ∪ freshAmong seen reported)
    omega

/-- Explore from a set of identifiers. The result holds all identifiers seen, with what the visits
left behind; without a start there is no visit. -/
def explore (visit : IdSet entity → σ → m (List (Ident entity) × σ)) (start : IdSet entity)
    (state : σ) : m (IdSet entity × σ) :=
  if start.isEmpty then pure (∅, state) else exploreFrom visit start start state

end ProblemBoard
