-- SUMMARY: Every identifier is read back from its display form, which has 4 to 11 symbols.
import Chronicle.Uid.Display
import Mathlib.Algebra.Group.Nat.Defs

/-!
# Display forms read back

Both bounds on the length of a display form come from the bounds of storage integers: the least has
4 digits, the greatest 11. With more than one digit the most significant one is shown second, and
it is not zero.
-/

namespace Chronicle.Uid

/-! ## Digits -/

theorem length_lowDigits_le_iff {n k : Nat} : (lowDigits n).length ≤ k ↔ n < 64 ^ k := by
  induction k generalizing n with
  | zero =>
    rw [lowDigits]
    split
    next h => simp [h]
    next h => simp [h]
  | succ k ih =>
    rw [lowDigits]
    split
    next h =>
      rw [h]
      exact ⟨fun _ => Nat.pow_pos (by decide), fun _ => Nat.zero_le _⟩
    next h =>
      rw [List.length_cons, Nat.succ_le_succ_iff, ih, Nat.pow_succ]
      omega

/-- The digits have no leading zero. -/
theorem getLast?_lowDigits_ne (n : Nat) : (lowDigits n).getLast? ≠ some 0 := by
  fun_induction lowDigits n with
  | case1 =>
    intro h
    cases h
  | case2 n hn ih =>
    rw [List.getLast?_cons]
    cases hlast : (lowDigits (n / 64)).getLast? with
    | some d =>
      rw [hlast] at ih
      exact ih
    | none =>
      -- the digit is the only one, hence the number itself
      have hzero : n / 64 = 0 := by
        have h := ofLowDigits_lowDigits (n / 64)
        rw [List.getLast?_eq_none_iff.1 hlast] at h
        exact h.symm
      intro h
      have hmod : n % 64 = 0 := congrArg Fin.val (Option.some.inj h)
      omega

/-! ## Reading what was written -/

theorem mapM_digit?_map_symbol (ds : List Digit) : (ds.map symbol).mapM digit? = some ds := by
  induction ds with
  | nil => rfl
  | cons d ds ih => simp [List.mapM_cons, ih]

/-- The digits of a display form spell the number whose digits they are. -/
theorem displayValue?_rotate_lowDigits {n : Nat} (hmin : 64 ^ 3 ≤ n) (hmax : n < 64 ^ 11) :
    displayValue? (rotate (lowDigits n)) = some n := by
  have hfew : ¬ (lowDigits n).length ≤ 3 := fun h => absurd (length_lowDigits_le_iff.1 h) (by omega)
  have hmany : (lowDigits n).length ≤ 11 := length_lowDigits_le_iff.2 hmax
  have hlast := getLast?_lowDigits_ne n
  have hvalue := ofLowDigits_lowDigits n
  generalize lowDigits n = ds at hfew hmany hlast hvalue
  have hlength : (rotate ds).length = ds.length := length_rotate ds
  have hrotate : rotate (rotate ds) = ds := rotate_rotate ds
  match hshown : rotate ds with
  | [] | [_] =>
    rw [hshown] at hlength
    simp only [List.length_nil, List.length_singleton] at hlength
    omega
  | low :: high :: rest =>
    rw [hshown] at hlength hrotate
    have hhigh : high ≠ 0 := by
      rintro rfl
      apply hlast
      rw [← hrotate, rotate, List.reverse_cons, ← List.cons_append]
      exact List.getLast?_concat
    rw [displayValue?, if_neg, hrotate, hvalue]
    rintro (hshort | hlong | hzero)
    · rw [hlength, minDisplayLength] at hshort
      omega
    · rw [hlength, maxDisplayLength] at hlong
      omega
    · exact hhigh hzero

theorem ofNat?_toNat_raw (u : Uid) : ofNat? u.raw.toNat = some u := by
  rw [ofNat?, if_pos (UInt64.toNat_lt u.raw), UInt64.ofNat_toNat, ofRaw?_raw]

/-- The display form names the identifier it was written from. -/
theorem ofDisplay?_toDisplay (u : Uid) : ofDisplay? u.toDisplay = some u := by
  have hmin : 64 ^ 3 ≤ u.raw.toNat := u.le_toNat_raw
  have hmax : u.raw.toNat < 64 ^ 11 := Nat.lt_of_lt_of_le (UInt64.toNat_lt u.raw) (by decide)
  rw [ofDisplay?, toList_toDisplay, displaySymbols, mapM_digit?_map_symbol, Option.bind_some,
    displayValue?_rotate_lowDigits hmin hmax, Option.bind_some, ofNat?_toNat_raw]

/-- No identifier is shown as the empty text. -/
theorem toDisplay_ne_empty (u : Uid) : u.toDisplay ≠ "" := by
  intro h
  have hread := ofDisplay?_toDisplay u
  rw [h] at hread
  cases hread

end Chronicle.Uid
