-- SUMMARY: The count of leases that generators of one process share.
import Chronicle.Lease

/-!
# Counters

Each lease takes the next count, and its worker id is the count reduced to the width of the field.
After the largest word comes zero.
-/

namespace Chronicle

/-- A count of leases. -/
structure Counter where
  count : UInt64
  deriving DecidableEq

namespace Counter

/-- Count one more lease. Gives the new count. -/
def increment (c : Counter) : UInt64 × Counter :=
  (c.count + 1, ⟨c.count + 1⟩)

/-- Count one more lease. Gives its worker id. -/
def acquire (c : Counter) : UInt16 × Counter :=
  (workerIdOfCount c.increment.1, c.increment.2)

/-- The worker ids of the next leases, in the order in which they are taken. -/
def acquireMany : Nat → Counter → List UInt16 × Counter
  | 0, c => ([], c)
  | n + 1, c =>
    let (id, c) := c.acquire
    let (ids, c) := c.acquireMany n
    (id :: ids, c)

end Counter

end Chronicle
