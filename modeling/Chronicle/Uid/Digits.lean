-- SUMMARY: Base-64 digits of a number, least significant first, and the number they spell.

/-!
# Base-64 digits

`lowDigits n` lists the digits of `n` from the least significant one upwards, without a leading
zero; `ofLowDigits` is the number that a list of digits spells. `rotate` turns such a list into the
order in which a display form shows it: the lowest digit, then the others from the top down.
-/

namespace Chronicle.Uid

/-- A digit of base 64. -/
abbrev Digit := Fin 64

/-- The digits of `n`, least significant first and without a leading zero. -/
def lowDigits (n : Nat) : List Digit :=
  if n = 0 then [] else ⟨n % 64, Nat.mod_lt _ (by decide)⟩ :: lowDigits (n / 64)
termination_by n
decreasing_by omega

/-- The number whose digits, least significant first, are given. -/
def ofLowDigits : List Digit → Nat
  | [] => 0
  | d :: ds => d.val + 64 * ofLowDigits ds

/-- The first element, then the others from the last to the second. Undoes itself. -/
def rotate : List α → List α
  | [] => []
  | d :: ds => d :: ds.reverse

@[simp] theorem lowDigits_zero : lowDigits 0 = [] := by
  simp [lowDigits]

@[simp] theorem ofLowDigits_lowDigits (n : Nat) : ofLowDigits (lowDigits n) = n := by
  fun_induction lowDigits n with
  | case1 => rfl
  | case2 n _ ih => simp only [ofLowDigits, ih]; omega

@[simp] theorem rotate_rotate (ds : List α) : rotate (rotate ds) = ds := by
  cases ds <;> simp [rotate]

@[simp] theorem length_rotate (ds : List α) : (rotate ds).length = ds.length := by
  cases ds <;> simp [rotate]

end Chronicle.Uid
