-- SUMMARY: Clock readings in milliseconds, and a clock that never goes back.
import Chronicle.Word

/-!
# Clocks

A reading counts milliseconds from the clock's epoch. A monotonic clock looks at the wall clock
once, when it is made, and from then on only counts the time that has passed.
-/

namespace Chronicle

/-- The whole second of a reading. -/
def wholeSecond (nowMs : UInt64) : UInt64 :=
  nowMs / 1000

/-- A clock given by its reading at the time it was made. -/
structure MonotonicClock where
  start : UInt64

namespace MonotonicClock

/-- The clock that counts from `epochMs`, made when the wall clock reads `unixMs`. A wall clock
before the epoch counts as the epoch. -/
def since (epochMs unixMs : Nat) : MonotonicClock :=
  ⟨Word.clamp (unixMs - epochMs)⟩

/-- The reading after `elapsedMs` milliseconds. -/
def reading (c : MonotonicClock) (elapsedMs : UInt64) : UInt64 :=
  Word.saturatingAdd c.start elapsedMs

theorem reading_mono (c : MonotonicClock) {a b : UInt64} (h : a ≤ b) :
    c.reading a ≤ c.reading b := by
  simp only [UInt64.le_iff_toNat_le, reading, Word.toNat_saturatingAdd] at *
  omega

end MonotonicClock

end Chronicle
