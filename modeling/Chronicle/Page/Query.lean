-- SUMMARY: Page requests: a direction, a cursor and a limit, and what makes a request good.
import Chronicle.Fault

/-!
# Page requests

A request names one of two directions by giving a cursor for it. An empty cursor asks for the edge
of the order: the first page in the direction `after`, the last one in the direction `before`. A
cursor that is not given at all means that its direction is not asked for.
-/

namespace Chronicle.Page

structure Query where
  before : Option String
  after : Option String
  limit : Int64
  deriving DecidableEq

/-- Where a page lies: before a cursor or after it. -/
inductive Anchor where
  | before (cursor : String)
  | after (cursor : String)
  deriving DecidableEq

namespace Query

/-- The rows after a cursor. -/
def ofAfter (cursor : String) (limit : Int64) : Query :=
  ⟨none, some cursor, limit⟩

/-- The rows before a cursor. -/
def ofBefore (cursor : String) (limit : Int64) : Query :=
  ⟨some cursor, none, limit⟩

/-- The only direction asked for. -/
def anchor? (q : Query) : Option Anchor :=
  match q.before, q.after with
  | some cursor, none => some (.before cursor)
  | none, some cursor => some (.after cursor)
  | _, _ => none

/-- The anchor and the page size of a good request. The direction is looked at first. -/
def validate (q : Query) : Except Fault (Anchor × Nat) :=
  match q.anchor? with
  | none => .error (.params .direction)
  | some anchor =>
    if 0 < q.limit then .ok (anchor, q.limit.toNatClampNeg)
    else .error (.params (.limit q.limit.toInt))

end Query

end Chronicle.Page
