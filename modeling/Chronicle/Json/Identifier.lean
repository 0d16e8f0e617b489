-- SUMMARY: Identifiers as JSON values, in display form or as storage integers, and rows that hold one of each.
import Chronicle.Json.Record
import Chronicle.Uid.Parse

/-!
# Identifiers in JSON

A field in display form is written as a string and reads any form. A string is tried as a display
form first, so that a display form made of digits reads back as what it was. A field in storage form
is an integer in both directions.
-/

namespace Chronicle.Uid

open Json

/-- The identifier as a JSON value. -/
def toJson (form : Form) (u : Uid) : Value :=
  match form with
  | .display => .string u.toDisplay
  | .storage => .natural u.raw

/-- A string that is no display form may hold a text with blanks or a storage integer in decimal. -/
def ofJsonString (s : String) : Except Fault Uid :=
  match ofDisplay? s with
  | some u => .ok u
  | none => ofText s

/-- The identifier that a JSON value is. -/
def ofJson (form : Form) (v : Value) : Except Failure Uid :=
  match form, v with
  | .display, .string s => (ofJsonString s).mapError .refused
  | _, .natural n => (ofRaw n).mapError .refused
  | _, .negative n => (ofInt64 n).mapError .refused
  | form, _ => .error (.noIdentifier form)

end Chronicle.Uid

namespace Chronicle

/-- A row that names itself by its display form and its thread by a storage integer. -/
structure Row where
  id : Uid
  threadId : Uid
  deriving DecidableEq

namespace Row

open Json

def toJson (r : Row) : Value :=
  .object [("id", r.id.toJson .display), ("thread_id", r.threadId.toJson .storage)]

/-- A field that may be missing. -/
def field? (form : Form) (v : Option Value) : Except Failure (Option Uid) :=
  match v with
  | none => .ok none
  | some v => (Uid.ofJson form v).map some

/-- The row of its fields, read in their order. A field that is there and is no identifier is
reported before a field that is missing. -/
def ofFields (id threadId : Option Value) : Except Failure Row := do
  let id ← field? .display id
  let threadId ← field? .storage threadId
  match id, threadId with
  | some id, some threadId => .ok ⟨id, threadId⟩
  | _, _ => .error .mismatch

/-- The row that a JSON value is: an object with both fields, or an array of the two. -/
def ofJson (v : Value) : Except Failure Row :=
  match v with
  | .object members => ofFields (Value.member? members "id") (Value.member? members "thread_id")
  | .array items =>
    match ofFields items[0]? items[1]? with
    | .ok row => if items.length = 2 then .ok row else .error .mismatch
    | .error e => .error e
  | _ => .error .mismatch

end Row

end Chronicle
