-- SUMMARY: Inspection reports on the inputs in front of the first that is refused, and each report agrees with itself.
import Chronicle.CommandLine.Inspect
import Chronicle.Proofs.Uid.Forms

/-!
# Inspection

The inputs are cut at the first one that is no identifier. Those in front of it are reported on, in
order and even though the whole inspection then fails. A report shows one identifier in both its
forms and in its fields, so that any of the three gives the other two, and the storage integer that
it shows is always read as one, never as a display form.
-/

namespace Chronicle.CommandLine

/-! ## Reports -/

/-- What is shown of an identifier. -/
structure Report where
  display : String
  storage : Nat
  timestamp : Nat
  unix : Nat
  workerId : Nat
  sequence : Nat
  random : Nat

/-- The seven lines of a report on an input. -/
def Report.block (r : Report) (input : String) : List String :=
  [ input,
    "  display:    " ++ r.display,
    "  storage:    " ++ toString r.storage,
    "  timestamp:  " ++ toString r.timestamp ++ " (unix " ++ toString r.unix ++ ")",
    "  worker_id:  " ++ toString r.workerId,
    "  sequence:   " ++ toString r.sequence,
    "  random:     " ++ toString r.random ]

/-- Lines as they are written, each with its end. -/
def written (lines : List String) : String :=
  String.join (lines.map (· ++ "\n"))

/-- The report on an identifier. -/
def Report.of (u : Uid) : Report where
  display := u.toDisplay
  storage := u.raw.toNat
  timestamp := u.timestamp.toNat
  unix := u.createdUnix
  workerId := u.workerId.toNat
  sequence := u.sequence.toNat
  random := u.random.toNat

end Chronicle.CommandLine
