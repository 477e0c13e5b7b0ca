/-!
Sets of code points, written as the lengths of alternating runs: first a run of points outside the set,
then one inside, and so on.
-/

namespace ClusterMdns.Text

abbrev CodeRuns := List Nat

namespace CodeRuns

/-- Membership of a point at distance `n` from the first run, which lies in the set iff `inside`. -/
def containsFrom (inside : Bool) : CodeRuns → Nat → Bool
  | [], _ => false
  | run :: runs, n => if n < run then inside else containsFrom (!inside) runs (n - run)

def contains (runs : CodeRuns) (n : Nat) : Bool :=
  containsFrom false runs n

end CodeRuns

end ClusterMdns.Text
