-- SUMMARY: What a generator remembers, what a poll answers, and what a new lease changes.
import Chronicle.Clock
import Chronicle.Duration
import Chronicle.Lease

/-!
# The state of a generator

Within a second the sequence counts up from a random seed and does not wrap; a second once left is
never entered again. A lease under another worker id fences the generator off until the second
after the last one used, since a smaller worker id would otherwise give a smaller identifier.
-/

namespace Chronicle.Generator

/-- The outcome of one poll. -/
inductive Status where
  | ready (id : Uid)
  /-- Nothing can be issued before this much time has passed. -/
  | pending (wait : Duration)
  /-- There is no live lease. -/
  | leaseRequired
  deriving DecidableEq

structure State where
  /-- The lease held, live or expired. -/
  lease : Option Lease := none
  /-- The second of the last identifier issued, zero before the first. -/
  timestamp : UInt64 := 0
  /-- The sequence of the last identifier issued. -/
  sequence : UInt16 := 0
  /-- Nothing is issued before this second. -/
  resumeAt : UInt64 := 0
  deriving DecidableEq

namespace State

/-! ## Polling -/

/-- The seconds that an identifier can carry. Second zero is left out. -/
def canCarry (second : UInt64) : Bool :=
  second ≠ 0 && second ≤ Uid.maxTimestamp

/-- The lease, if it is live. -/
def liveLease? (s : State) (now : UInt64) : Option Lease :=
  s.lease.filter (·.isLive now)

/-- The time from a reading to the start of a second. -/
def waitUntil (nowMs second : UInt64) : Duration :=
  .ofMillis (Word.saturatingSub (Word.saturatingMul second 1000) nowMs)

/-- Move to a second and a sequence in it, and issue the identifier that stands there. -/
def issue (s : State) (workerId : UInt16) (timestamp : UInt64) (sequence random : UInt16) :
    Except Fault Status × State :=
  ((Uid.ofFields timestamp workerId sequence random).map .ready, { s with timestamp, sequence })

/-- Ask for an identifier at a clock reading. `seed` starts the sequence if the second is new, and
`random` fills the random field. -/
def poll (s : State) (nowMs : UInt64) (seed random : UInt16) : Except Fault Status × State :=
  let now := wholeSecond nowMs
  if !canCarry now then (.error (.internal (.clock now)), s)
  else match s.liveLease? now with
    | none => (.ok .leaseRequired, s)
    | some lease =>
      if now < s.resumeAt then (.ok (.pending (waitUntil nowMs s.resumeAt)), s)
      else if s.timestamp < now then s.issue lease.workerId now seed random
      else if now < s.timestamp then (.ok (.pending (waitUntil nowMs s.timestamp)), s)
      else if Uid.maxSequence ≤ s.sequence then (.ok (.pending (waitUntil nowMs (now + 1))), s)
      else s.issue lease.workerId now (s.sequence + 1) random

/-! ## Leasing -/

/-- The lease held is under another worker id. -/
def changesWorker (s : State) (workerId : UInt16) : Bool :=
  s.lease.any (·.workerId ≠ workerId)

/-- Hold a new lease in place of the old one. -/
def install (s : State) (lease : Lease) : State :=
  if s.changesWorker lease.workerId && s.resumeAt < s.timestamp + 1 then
    { s with lease := some lease, resumeAt := s.timestamp + 1 }
  else { s with lease := some lease }

@[simp] theorem lease_install (s : State) (lease : Lease) :
    (s.install lease).lease = some lease := by
  unfold install; split <;> rfl

@[simp] theorem timestamp_install (s : State) (lease : Lease) :
    (s.install lease).timestamp = s.timestamp := by
  unfold install; split <;> rfl

@[simp] theorem sequence_install (s : State) (lease : Lease) :
    (s.install lease).sequence = s.sequence := by
  unfold install; split <;> rfl

end State

end Chronicle.Generator
