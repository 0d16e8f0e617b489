-- SUMMARY: Spans of time to the nanosecond, and the text that diagnostics show for them.

/-!
# Durations

A duration is a number of whole seconds, any word, and the nanoseconds beyond them. A lease counts
whole seconds only; a clock counts milliseconds, of which a duration may hold more than fit a word.
-/

namespace Chronicle

structure Duration where
  seconds : UInt64
  nanos : Fin 1000000000
  deriving DecidableEq

namespace Duration

def ofSeconds (s : UInt64) : Duration := ⟨s, 0⟩

def ofMillis (ms : UInt64) : Duration :=
  ⟨ms / 1000, ⟨ms.toNat % 1000 * 1000000, by omega⟩⟩

/-- The milliseconds that have passed when the whole span has. -/
def toMillis (d : Duration) : Nat :=
  d.seconds.toNat * 1000 + d.nanos / 1000000

@[simp] theorem toMillis_ofMillis (ms : UInt64) : (ofMillis ms).toMillis = ms.toNat := by
  simp only [ofMillis, toMillis, UInt64.toNat_div, UInt64.reduceToNat]
  omega

/-- The lowest `count` decimal digits of a number, the most significant first. -/
def lowDigits : (count : Nat) → Nat → List Char
  | 0, _ => []
  | count + 1, n => lowDigits count (n / 10) ++ [Nat.digitChar (n % 10)]

/-- A number with those of `count` decimals that are needed. -/
def withDecimals (whole count part : Nat) : String :=
  match ((lowDigits count part).reverse.dropWhile (· == '0')).reverse with
  | [] => toString whole
  | ds => toString whole ++ "." ++ String.ofList ds

/-- The span in the largest of four units that it holds once, from seconds to nanoseconds. -/
def debug (d : Duration) : String :=
  let nanos := d.nanos.val
  if d.seconds ≠ 0 then withDecimals d.seconds.toNat 9 nanos ++ "s"
  else if 1000000 ≤ nanos then withDecimals (nanos / 1000000) 6 (nanos % 1000000) ++ "ms"
  else if 1000 ≤ nanos then withDecimals (nanos / 1000) 3 (nanos % 1000) ++ "\u00b5s"
  else toString nanos ++ "ns"

end Duration

end Chronicle
