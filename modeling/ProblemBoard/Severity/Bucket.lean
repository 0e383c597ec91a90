import ProblemBoard.Severity.Levels

/-! # Problem counts by severity

A bucket counts problems separately for each severity. It is what the board shows for one
navigation item.
-/

namespace ProblemBoard

/-- The number of problems of each severity. -/
abbrev Bucket := Levels Nat

namespace Bucket

/-- Counters of problems are 32 bits wide: what they can hold is below this. -/
def countLimit : Nat := Nat.pow 2 32

/-- The bucket without problems. -/
def empty : Bucket := Levels.ofFn fun _ => 0

/-- The bucket with `count` more problems of one severity. -/
def add (bucket : Bucket) (severity : Severity) (count : Nat) : Bucket :=
  bucket.set severity (bucket.get severity + count)

/-- The number of problems of any severity. -/
def total (bucket : Bucket) : Nat := (bucket.toList.map Prod.snd).foldr (· + ·) 0

def isEmpty (bucket : Bucket) : Bool := bucket.toList.all fun entry => entry.2 == 0

/-- The bucket that counts each severity as often as it occurs in a list. -/
def ofList (severities : List Severity) : Bucket :=
  severities.foldl (fun bucket severity => bucket.add severity 1) empty

@[simp] theorem get_empty (severity : Severity) : empty.get severity = 0 := by
  simp [empty]

theorem get_add (bucket : Bucket) (severity other : Severity) (count : Nat) :
    (bucket.add severity count).get other =
      bucket.get other + if other = severity then count else 0 := by
  by_cases same : other = severity <;> simp [add, Levels.get_set, same]

theorem isEmpty_iff {bucket : Bucket} : bucket.isEmpty = true ↔ bucket = empty := by
  rw [isEmpty, List.all_eq_true]
  constructor
  · intro zero
    exact Levels.ext_get fun severity => by
      simpa using zero (severity, bucket.get severity) (Levels.mem_toList.mpr rfl)
  · rintro rfl entry member
    rw [Levels.mem_toList] at member
    simp [← member]

/-- Each slot of `ofList` holds the number of occurrences of its severity. -/
theorem get_ofList (severities : List Severity) (severity : Severity) :
    (ofList severities).get severity = severities.count severity := by
  have from_bucket (start : Bucket) :
      (severities.foldl (fun bucket other => bucket.add other 1) start).get severity =
        start.get severity + severities.count severity := by
    induction severities generalizing start with
    | nil => simp
    | cons other rest step =>
      rw [List.foldl_cons, step, get_add, List.count_cons]
      by_cases same : severity = other
      · subst same
        simp
        omega
      · have differ : ¬ other = severity := fun eq => same eq.symm
        simp [same, differ]
  simpa [ofList] using from_bucket empty

end Bucket

end ProblemBoard
