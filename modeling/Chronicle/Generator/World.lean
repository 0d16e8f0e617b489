-- SUMMARY: What surrounds a generator: clock, randomness, the shared count of leases, and sleeping.
import Chronicle.Draw
import Chronicle.Duration
import Chronicle.Fault

/-!
# Worlds

A generator reads a clock, draws random words, counts leases in a store that it shares with others,
and sleeps. Each of these is an operation on some type of world, so that a law about generators
holds for every clock, every source of randomness and every store.
-/

namespace Chronicle.Generator

/-- The surroundings of a generator, as operations on a world of type `ω`. -/
structure World (ω : Type) where
  /-- The clock reading in milliseconds. -/
  nowMs : ω → UInt64
  /-- A random word. -/
  draw : ω → UInt64 × ω
  /-- Count one more lease in the shared store. -/
  countLease : ω → Except Fault UInt64 × ω
  sleep : Duration → ω → ω

/-- A random number below `bound`. No word is drawn where no number is below it. -/
def World.drawBelow (W : World ω) (bound : UInt64) (w : ω) : UInt64 × ω :=
  if bound = 0 then (0, w)
  else
    let (word, w) := W.draw w
    (Draw.below bound word, w)

end Chronicle.Generator
