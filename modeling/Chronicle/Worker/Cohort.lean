-- SUMMARY: Counts of leases kept in a database, one for each cohort of generators.
import Chronicle.Store.Database
import Chronicle.Worker.Counter

/-!
# Cohorts

The generators that must not collide form a cohort. Its count is stored under its name in one tree
of the database, as a big-endian word; no bytes, or bytes that are no word, count as zero.
-/

namespace Chronicle

/-- A cohort of generators, by its name. -/
structure Cohort where
  name : String
  name_ne : name ≠ ""
  deriving DecidableEq

namespace Cohort

/-- The tree that holds the counts of all cohorts. -/
def treeName : String := "worker_id"

/-- The cohort of a name, which must not be empty. -/
def ofName (name : String) : Except Fault Cohort :=
  if h : name ≠ "" then .ok ⟨name, h⟩ else .error (.params .cohort)

/-- The key under which the count is stored. -/
def key (c : Cohort) : Bytes :=
  Bytes.ofString c.name

/-- The count that stored bytes stand for. -/
def countOfBytes (b : Option Bytes) : UInt64 :=
  (b.bind Bytes.toWord?).getD 0

/-- The bytes stored for the cohort. -/
def stored (c : Cohort) (db : Database) : Option Bytes :=
  (db.tree treeName).get? c.key

/-- Store bytes for the cohort. -/
def store (c : Cohort) (db : Database) (b : Bytes) : Database :=
  db.setTree treeName ((db.tree treeName).insert c.key b)

/-- The count of the cohort, seen as a counter. -/
def counter (c : Cohort) (db : Database) : Counter :=
  ⟨countOfBytes (c.stored db)⟩

def count (c : Cohort) (db : Database) : UInt64 :=
  (c.counter db).count

/-- Count one more lease of the cohort. Gives the new count. -/
def increment (c : Cohort) (db : Database) : UInt64 × Database :=
  let next := countOfBytes (c.stored db) + 1
  (next, c.store db (Bytes.ofWord next))

/-- Count one more lease of the cohort. Gives its worker id. -/
def acquire (c : Cohort) (db : Database) : UInt16 × Database :=
  (workerIdOfCount (c.increment db).1, (c.increment db).2)

/-- The worker ids of the next leases, in the order in which they are taken. -/
def acquireMany (c : Cohort) : Nat → Database → List UInt16 × Database
  | 0, db => ([], db)
  | n + 1, db =>
    let (id, db) := c.acquire db
    let (ids, db) := c.acquireMany n db
    (id :: ids, db)

@[simp] theorem countOfBytes_ofWord (w : UInt64) : countOfBytes (some (Bytes.ofWord w)) = w := by
  simp [countOfBytes]

@[simp] theorem stored_store (c : Cohort) (db : Database) (b : Bytes) :
    c.stored (c.store db b) = some b := by
  simp [stored, store]

/-- An increment of the stored count is an increment of the counter that it stands for. -/
theorem counter_increment (c : Cohort) (db : Database) :
    c.counter (c.increment db).2 = (c.counter db).increment.2 := by
  simp [counter, increment, Counter.increment]

end Cohort

end Chronicle
