-- SUMMARY: Hexadecimal digits: written in lower case, read in either case.

namespace Chronicle.Text.Hexadecimal

/-- The digit of the lowest four bits of a number. -/
def digit (n : Nat) : Char :=
  Nat.digitChar (n % 16)

/-- The value of a digit of either case. -/
def digit? (c : Char) : Option Nat :=
  if '0' ≤ c ∧ c ≤ '9' then some (c.toNat - '0'.toNat)
  else if 'a' ≤ c ∧ c ≤ 'f' then some (c.toNat - 'a'.toNat + 10)
  else if 'A' ≤ c ∧ c ≤ 'F' then some (c.toNat - 'A'.toNat + 10)
  else none

@[simp] theorem digit?_digit (n : Nat) : digit? (digit n) = some (n % 16) := by
  have h : ∀ k < 16, digit? (Nat.digitChar k) = some k := by decide
  exact h _ (Nat.mod_lt _ (by decide))

end Chronicle.Text.Hexadecimal
