import ProblemBoard.Proofs.Entries

/-! # Ledgers with counters of limited width

A counter of 32 bits cannot count every number of problems. If the program was built to stop there, it
stops at the first trigger with too many problems, whatever the order of the entries. If counters start
again at zero, they show what is left of the numbers beyond their width. In both cases the ledger is the
one with unbounded counts, cut to that width, and depends on what was entered and not on the order.
-/

namespace ProblemBoard

namespace Standing

/-- The standing with its counts cut to the width of a counter. -/
def cut (standing : Standing) : Standing :=
  { standing with
    problems := standing.problems % Bucket.countLimit
    unacknowledged := standing.unacknowledged % Bucket.countLimit }

end Standing

namespace Overflow

end Overflow

namespace Standing

variable {overflow : Overflow} {standing : Standing} {problem : Problem}

end Standing

namespace Ledger

/-- The ledger with all its counts cut to the width of a counter. -/
def cut (ledger : Ledger) : Ledger := { ledger with standings := ledger.standings.map fun _ => Standing.cut }

namespace Entry

/-- The open problems of one trigger among some entries. -/
def problemsOf (entries : List Entry) (trigger : TriggerId) : List Problem :=
  (problems entries).filter (·.trigger = trigger)

theorem problemsOf_perm {entries more : List Entry} (perm : entries.Perm more) (trigger : TriggerId) :
    (problemsOf entries trigger).Perm (problemsOf more trigger) := (perm.filterMap _).filter _

end Entry

section Entries

variable {overflow : Overflow} {entries : List Entry} {trigger : TriggerId}

end Entries

end Ledger

end ProblemBoard
