-- SUMMARY: What is made of random words: numbers below a bound, and opaque tokens.
import Chronicle.Uid.Display

/-!
# Random draws

A draw is any word. What is needed of it, a number below a bound or a symbol of a token, is the
remainder by the bound.
-/

namespace Chronicle.Draw

/-- The number below `bound` that a word stands for, and zero where no number is below it. -/
def below (bound word : UInt64) : UInt64 :=
  if bound = 0 then 0 else word % bound

theorem below_lt {bound : UInt64} (word : UInt64) (h : bound ≠ 0) : below bound word < bound := by
  rw [below, if_neg h]
  exact UInt64.mod_lt _ (UInt64.pos_iff_ne_zero.2 h)

/-- The symbol of the display alphabet that a word stands for. -/
def symbol (word : UInt64) : Char :=
  Uid.symbol ⟨word.toNat % 64, Nat.mod_lt _ (by decide)⟩

/-- A token without structure: one symbol for each word. -/
def token (words : List UInt64) : String :=
  String.ofList (words.map symbol)

@[simp] theorem length_token (words : List UInt64) : (token words).length = words.length := by
  simp [token]

end Chronicle.Draw
