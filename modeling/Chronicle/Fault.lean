-- SUMMARY: The ways a request can fail: their causes, their class and their wording.
import Chronicle.Text.Quoted
import Chronicle.Text.Record

/-!
# Faults

A fault is a cause. `Fault.kind` says whose concern it is, `Fault.message` what a caller is told,
and `Fault.debug` how a diagnostic shows it. The causes that only carry a text stand for failures
reported from outside, such as a store of worker counts that is reached over a network.
-/

namespace Chronicle

/-- Why a parameter was turned down. -/
inductive Refusal where
  /-- A page was asked for in no direction or in both. -/
  | direction
  /-- A page was asked for with a limit that is not positive. -/
  | limit (n : Int)
  /-- A cursor that is no display form of an identifier. -/
  | cursor (text : String)
  /-- A cursor that is no decimal integer of 64 bits. -/
  | decimalCursor (text : String)
  /-- A cohort of generators without a name. -/
  | cohort
  /-- A reason given by someone else. -/
  | other (text : String)
  deriving DecidableEq

/-- What went wrong below an otherwise good request. -/
inductive Trouble where
  /-- The clock reads a second that the timestamp field cannot hold. -/
  | clock (second : UInt64)
  /-- Stored bytes that are no record, with what the codec says of them. -/
  | recordBytes (detail : String)
  /-- A stored key that is no identifier. -/
  | recordKey (key : List UInt8)
  /-- The database refused the operation. -/
  | database (detail : String)
  /-- A context given by someone else. -/
  | other (text : String)
  deriving DecidableEq

/-- A failed request. -/
inductive Fault where
  /-- The input is neither a storage integer nor a display form. -/
  | invalidIdentifier (input : String)
  | params (why : Refusal)
  | internal (what : Trouble)
  /-- No worker id could be leased; `context` is the message of the last failure. -/
  | leaseUnavailable (attempts : Nat) (context : String)
  deriving DecidableEq

/-! ## Classes -/

/-- Whose concern a fault is. -/
inductive Fault.Kind where
  /-- The caller can mend the input. -/
  | params
  /-- The caller may try again. -/
  | internal
  /-- No identifier may be issued at all. -/
  | fatal
  deriving DecidableEq

/-- The stable code that a client sees. -/
def Fault.Kind.code : Fault.Kind → String
  | .params => "INVALID_PARAMETER"
  | .internal => "INTERNAL_SERVER_ERROR"
  | .fatal => "WORKER_LEASE_UNAVAILABLE"

def Fault.kind : Fault → Fault.Kind
  | .invalidIdentifier _ | .params _ => .params
  | .internal _ => .internal
  | .leaseUnavailable _ _ => .fatal

def Fault.code (f : Fault) : String :=
  f.kind.code

/-! ## Wording -/

def Refusal.reason : Refusal → String
  | .direction => "you must specify either before or after"
  | .limit n => "limit must be a positive integer, got " ++ toString n
  | .cursor text => "malformed cursor " ++ Text.quoted text
  | .decimalCursor text => "bad decimal cursor " ++ text
  | .cohort => "worker cohort name must not be empty"
  | .other text => text

def Trouble.context : Trouble → String
  | .clock second => "clock second " ++ toString second ++ " is outside the timestamp range"
  | .recordBytes detail => "record codec: " ++ detail
  | .recordKey key =>
    "corrupt record key [" ++ ", ".intercalate (key.map toString) ++ "]"
  | .database detail => "sled: " ++ detail
  | .other text => text

/-- What the caller is told. -/
def Fault.message : Fault → String
  | .invalidIdentifier input => "invalid identifier: " ++ Text.quoted input
  | .params why => "invalid params: " ++ why.reason
  | .internal what => "internal error: " ++ what.context
  | .leaseUnavailable attempts context =>
    "worker lease unavailable after " ++ toString attempts ++ " attempt(s): " ++ context

/-- The one-line form for diagnostics. -/
def Fault.debug : Fault → String
  | .invalidIdentifier input => Text.record "InvalidIdentifier" [("input", Text.quoted input)]
  | .params why => Text.record "Params" [("reason", Text.quoted why.reason)]
  | .internal what => Text.record "Internal" [("context", Text.quoted what.context)]
  | .leaseUnavailable attempts context =>
    Text.record "LeaseUnavailable"
      [("attempts", toString attempts), ("context", Text.quoted context)]

end Chronicle
