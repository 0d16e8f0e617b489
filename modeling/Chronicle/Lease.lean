-- SUMMARY: Leases: a generator's claim on a worker id for a time.
import Chronicle.Uid.Basic
import Chronicle.Word

/-!
# Leases

A lease is never given back. It stops being used once its expiry second has come, and the generator
then takes a new worker id from the shared count.
-/

namespace Chronicle

/-- A claim on a worker id, in seconds of the generator's clock. -/
structure Lease where
  workerId : UInt16
  acquiredAt : UInt64
  expiresAt : UInt64
  deriving DecidableEq

namespace Lease

/-- A lease that runs for `ttl` seconds, or to the end of time if that is sooner. -/
def grant (workerId : UInt16) (acquiredAt ttl : UInt64) : Lease :=
  ⟨workerId, acquiredAt, Word.saturatingAdd acquiredAt ttl⟩

/-- A lease is live before its expiry second. -/
def isLive (l : Lease) (now : UInt64) : Bool :=
  now < l.expiresAt

end Lease

/-- The worker id of a count of leases. -/
def workerIdOfCount (count : UInt64) : UInt16 :=
  (count % Uid.workerIdBound).toUInt16

theorem toNat_workerIdOfCount (count : UInt64) :
    (workerIdOfCount count).toNat = count.toNat % 512 := by
  simp only [workerIdOfCount, Uid.workerIdBound, UInt64.toNat_toUInt16, UInt64.toNat_mod,
    UInt64.reduceToNat]
  omega

theorem workerIdOfCount_lt (count : UInt64) : (workerIdOfCount count).toNat < 512 := by
  rw [toNat_workerIdOfCount]; omega

/-- The worker id of a count fits its field. -/
theorem workerIdOfCount_le (count : UInt64) : workerIdOfCount count ≤ Uid.maxWorkerId := by
  have hlt := workerIdOfCount_lt count
  simp only [UInt16.le_iff_toNat_le, Uid.maxWorkerId, UInt16.reduceToNat]
  omega

end Chronicle
