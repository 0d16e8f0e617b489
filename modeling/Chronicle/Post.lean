-- SUMMARY: Posts: a kind of record that is kept under identifiers, stored as JSON.
import Chronicle.Json.Record
import Chronicle.Page.Records

namespace Chronicle

/-- A text in a thread. -/
structure Post where
  thread : UInt32
  content : String
  deriving DecidableEq

namespace Post

open Json

def layout : Layout :=
  [("thread", .word32), ("content", .text)]

def toJson (p : Post) : Value :=
  .object [("thread", .natural p.thread.toUInt64), ("content", .string p.content)]

def ofJson (s : String) : Except Failure Post :=
  match readRecord layout (tokens s) with
  | .ok [.int thread, .text content] => .ok ⟨UInt32.ofNat thread.toNat, content⟩
  | .ok _ => .error .mismatch
  | .error e => .error e

/-- What is said of a text that holds no post. -/
def refusal : Failure → String
  | .malformed => "not a JSON text"
  | _ => "not a post"

/-- Posts as JSON texts in UTF-8. -/
def codec : RecordCodec Post where
  encode p := Bytes.ofString p.toJson.print
  decode b :=
    match Bytes.toString? b with
    | some s => (ofJson s).mapError refusal
    | none => .error "not a text in UTF-8"

end Post

end Chronicle
