-- SUMMARY: The settings of a generator, and the numbers it takes from them.
import Chronicle.Duration
import Chronicle.Word

/-!
# Settings of a generator

Leases are counted in whole seconds: the time to live is rounded down but is at least one second,
and the jitter is rounded down.
-/

namespace Chronicle.Generator

structure Config where
  /-- How long a leased worker id stays valid. -/
  leaseTtl : Duration := .ofSeconds 3600
  /-- Upper bound of the random extension of each lease. -/
  leaseJitter : Duration := .ofSeconds 3600
  /-- Attempts to lease a worker id before the generator gives up. -/
  acquireAttempts : UInt32 := 3
  /-- Pause between two attempts. -/
  retryDelay : Duration := .ofMillis 100
  /-- The sequence of each second starts at a random number below this one. -/
  seedSpan : UInt16 := 64
  deriving DecidableEq

namespace Config

def ttlSeconds (c : Config) : UInt64 :=
  if c.leaseTtl.seconds = 0 then 1 else c.leaseTtl.seconds

/-- The bound of the draw that extends a lease, one more than the jitter, if that is a word. No draw
is made when the jitter is below a second. -/
def jitterBound? (c : Config) : Option UInt64 :=
  if c.leaseJitter.seconds = 0 then some 0 else Word.add? c.leaseJitter.seconds 1

/-- At least one attempt is made. -/
def attempts (c : Config) : Nat :=
  if c.acquireAttempts = 0 then 1 else c.acquireAttempts.toNat

/-- The bound of the draw that starts a sequence, at most the number of sequence values. -/
def seedBound (c : Config) : UInt64 :=
  if c.seedSpan ≤ 1024 then c.seedSpan.toUInt64 else 1024

theorem attempts_pos (c : Config) : 0 < c.attempts := by
  unfold attempts
  split
  · decide
  · rename_i h
    exact Nat.pos_of_ne_zero fun h0 => h (UInt32.toNat_inj.1 h0)

end Config

end Chronicle.Generator
