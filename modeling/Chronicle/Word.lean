-- SUMMARY: Arithmetic on 64-bit words that does not wrap: it stops at the ends of the range, or has no result.

/-!
# Words that do not wrap

`clamp n` is the word nearest to the number `n`. Sums, differences and products of words that stop
at the ends of the range are computed on numbers and clamped once. A sum that must not leave the
range at all is `add?`, which there has no value.
-/

namespace Chronicle.Word

/-- The largest word. -/
def greatest : UInt64 := 0xFFFFFFFFFFFFFFFF

/-- The word nearest to a number. -/
def clamp (n : Nat) : UInt64 :=
  if n < UInt64.size then UInt64.ofNat n else greatest

def saturatingAdd (a b : UInt64) : UInt64 :=
  clamp (a.toNat + b.toNat)

def saturatingSub (a b : UInt64) : UInt64 :=
  clamp (a.toNat - b.toNat)

def saturatingMul (a b : UInt64) : UInt64 :=
  clamp (a.toNat * b.toNat)

/-- The sum of two words, if it is a word. -/
def add? (a b : UInt64) : Option UInt64 :=
  if a.toNat + b.toNat < UInt64.size then some (a + b) else none

@[simp] theorem toNat_clamp (n : Nat) : (clamp n).toNat = min n (UInt64.size - 1) := by
  unfold clamp
  split
  · rw [UInt64.toNat_ofNat_of_lt' ‹_›]; omega
  · simp only [greatest, UInt64.reduceToNat, UInt64.size] at *; omega

@[simp] theorem toNat_saturatingAdd (a b : UInt64) :
    (saturatingAdd a b).toNat = min (a.toNat + b.toNat) (UInt64.size - 1) :=
  toNat_clamp _

@[simp] theorem toNat_saturatingSub (a b : UInt64) :
    (saturatingSub a b).toNat = a.toNat - b.toNat := by
  have := a.toNat_lt
  rw [saturatingSub, toNat_clamp]
  simp only [UInt64.size]; omega

@[simp] theorem toNat_saturatingMul (a b : UInt64) :
    (saturatingMul a b).toNat = min (a.toNat * b.toNat) (UInt64.size - 1) :=
  toNat_clamp _

section

variable {a b c : UInt64}

theorem add?_eq_none_iff : add? a b = none ↔ UInt64.size ≤ a.toNat + b.toNat := by
  rw [add?, ite_eq_right_iff, ← Nat.not_lt]
  simp

theorem add?_eq_some_iff : add? a b = some c ↔ a.toNat + b.toNat = c.toNat := by
  have hc := c.toNat_lt
  rw [add?]
  split
  next hfits => rw [Option.some.injEq, ← UInt64.toNat_inj, UInt64.toNat_add, Nat.mod_eq_of_lt hfits]
  next hfits =>
    simp only [UInt64.size] at hfits
    simp only [reduceCtorEq, false_iff]
    omega

end

end Chronicle.Word
