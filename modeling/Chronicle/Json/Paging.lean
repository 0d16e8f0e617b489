-- SUMMARY: Page requests and page information in JSON.
import Chronicle.Json.Record
import Chronicle.Page.Basic

namespace Chronicle.Page

open Json

/-! ## Requests -/

namespace Query

/-- Two cursors that may be missing, and a limit that may not. -/
def layout : Layout :=
  [("before", .optionalText), ("after", .optionalText), ("limit", .int64)]

def ofJson (s : String) : Except Failure Query :=
  match readRecord layout (tokens s) with
  | .ok [before, after, .int limit] =>
    .ok ⟨before.text?, after.text?, Int64.ofInt limit⟩
  | .ok _ => .error .mismatch
  | .error e => .error e

/-- A cursor, or null where its direction is not asked for. -/
def cursorJson : Option String → Value
  | some cursor => .string cursor
  | none => .null

def toJson (q : Query) : Value :=
  .object [("before", cursorJson q.before), ("after", cursorJson q.after),
    ("limit", .ofInt64 q.limit)]

end Query

/-! ## Information -/

namespace Info

def layout : Layout :=
  [("firstCursor", .text), ("lastCursor", .text), ("hasNext", .flag)]

def ofJson (s : String) : Except Failure Info :=
  match readRecord layout (tokens s) with
  | .ok [.text first, .text last, .flag hasNext] => .ok ⟨first, last, hasNext⟩
  | .ok _ => .error .mismatch
  | .error e => .error e

def toJson (i : Info) : Value :=
  .object [("firstCursor", .string i.firstCursor), ("lastCursor", .string i.lastCursor),
    ("hasNext", .bool i.hasNext)]

end Info

end Chronicle.Page
