-- SUMMARY: Decimal integers in text: reading plain digits, and reading with a sign.

/-!
# Decimal integers

`digits?` reads a non-empty run of ASCII digits, leading zeros included, and nothing else; the
value has no bound. `unsigned?` and `signed?` also take a sign in front, as a reader of numbers
from a command line does: `+` for both, `-` for the second.
-/

namespace Chronicle.Text.Decimal

/-- The value of a non-empty run of ASCII digits. -/
def digits? (cs : List Char) : Option Nat :=
  if cs ≠ [] ∧ cs.all Char.isDigit then some (Nat.ofDigitChars 10 cs 0) else none

/-- Digits, after a `+` or without one. -/
def unsigned? (cs : List Char) : Option Nat :=
  match cs with
  | '+' :: rest => digits? rest
  | cs => digits? cs

/-- Digits, after one sign or none. -/
def signed? (cs : List Char) : Option Int :=
  match cs with
  | '-' :: rest => (digits? rest).map fun n => -(n : Int)
  | cs => (unsigned? cs).map Int.ofNat

theorem digits?_eq_some_iff {cs : List Char} {n : Nat} :
    digits? cs = some n ↔
      cs ≠ [] ∧ cs.all Char.isDigit = true ∧ Nat.ofDigitChars 10 cs 0 = n := by
  grind [digits?]

/-- What `Nat.toDigits` writes is read back. -/
@[simp] theorem digits?_toDigits (n : Nat) : digits? (Nat.toDigits 10 n) = some n := by
  refine digits?_eq_some_iff.2 ⟨Nat.toDigits_ne_nil, ?_, ?_⟩
  · exact List.all_eq_true.2 fun c hc => Nat.isDigit_of_mem_toDigits (by decide) (by decide) hc
  · exact Nat.ofDigitChars_toDigits (by decide) (by decide)

end Chronicle.Text.Decimal
