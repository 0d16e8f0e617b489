-- SUMMARY: The order of big-endian byte strings is the order of the numbers that they spell.
import Chronicle.Store.Bytes
import Mathlib.Data.List.Induction

/-!
# The order of byte strings

Byte strings are compared from the first byte on. If two are of one length, all bytes but the last
decide, and the last bytes where those agree; numbers are compared so by quotient and remainder.
-/

namespace Chronicle.Bytes

/-! ## Words -/

theorem compare_concat {b c : Bytes} (h : b.length = c.length) (x y : UInt8) :
    compare (b ++ [x]) (c ++ [y]) = (compare b c).then (compare x y) := by
  induction b generalizing c with
  | nil =>
    obtain rfl : c = [] := List.length_eq_zero_iff.1 h.symm
    simp [List.compare_cons_cons]
  | cons z b ih =>
    cases c with
    | nil => cases h
    | cons w c =>
      rw [List.cons_append, List.cons_append, List.compare_cons_cons, List.compare_cons_cons,
        ih (Nat.succ.inj h), Ordering.then_assoc]

theorem compare_toNat (x y : UInt8) : compare x y = compare x.toNat y.toNat := by
  simp only [compare, compareOfLessAndEq, UInt8.lt_iff_toNat_lt, ← UInt8.toNat_inj]

/-- The order of numbers is that of their quotients, and that of their remainders where the
quotients agree. -/
theorem compare_div_then_mod (a b n : Nat) :
    (compare (a / n) (b / n)).then (compare (a % n) (b % n)) = compare a b := by
  cases hquotient : compare (a / n) (b / n) with
  | lt =>
    have hlt : a < b := Nat.lt_of_div_lt_div (Nat.compare_eq_lt.1 hquotient)
    exact (Nat.compare_eq_lt.2 hlt).symm
  | gt =>
    have hlt : b < a := Nat.lt_of_div_lt_div (Nat.compare_eq_gt.1 hquotient)
    exact (Nat.compare_eq_gt.2 hlt).symm
  | eq =>
    have hsame := Nat.compare_eq_eq.1 hquotient
    have ha := Nat.div_add_mod a n
    have hb := Nat.div_add_mod b n
    rw [hsame] at ha
    have hlt : a % n < b % n ↔ a < b := by omega
    have heq : a % n = b % n ↔ a = b := by omega
    simp only [Ordering.eq_then, compare, compareOfLessAndEq, hlt, heq]

/-- The lowest bytes of numbers are in the order of what those bytes spell. -/
theorem compare_bigEndian (count a b : Nat) :
    compare (bigEndian count a) (bigEndian count b)
      = compare (a % Nat.pow 256 count) (b % Nat.pow 256 count) := by
  induction count generalizing a b with
  | zero => simp [bigEndian, Nat.mod_one]
  | succ count ih =>
    have hlast : ∀ n, (UInt8.ofNat (n % 256)).toNat = n % 256 := fun n =>
      UInt8.toNat_ofNat_of_lt' (Nat.mod_lt _ (by decide))
    have hquotient : ∀ n, n % Nat.pow 256 (count + 1) / 256 = n / 256 % Nat.pow 256 count := by
      intro n
      rw [show Nat.pow 256 (count + 1) = 256 * Nat.pow 256 count from Nat.mul_comm _ _,
        Nat.mod_mul_right_div_self]
    have hremainder : ∀ n, n % Nat.pow 256 (count + 1) % 256 = n % 256 := fun n =>
      Nat.mod_mod_of_dvd n (Nat.dvd_mul_left _ _)
    calc compare (bigEndian (count + 1) a) (bigEndian (count + 1) b)
      _ = (compare (a / 256 % Nat.pow 256 count) (b / 256 % Nat.pow 256 count)).then
            (compare (a % 256) (b % 256)) := by
          rw [bigEndian, bigEndian, compare_concat (by simp), ih, compare_toNat, hlast, hlast]
      _ = compare (a % Nat.pow 256 (count + 1)) (b % Nat.pow 256 (count + 1)) := by
          rw [← hquotient, ← hquotient, ← hremainder a, ← hremainder b, compare_div_then_mod]

/-- The byte strings of words are in the order of the words. -/
theorem compare_ofWord (a b : UInt64) : compare (ofWord a) (ofWord b) = compare a b := by
  have hword : ∀ w : UInt64, w.toNat % Nat.pow 256 8 = w.toNat := fun w =>
    Nat.mod_eq_of_lt w.toNat_lt
  rw [ofWord, ofWord, compare_bigEndian, hword, hword]
  simp only [compare, compareOfLessAndEq, UInt64.lt_iff_toNat_lt, ← UInt64.toNat_inj]

theorem value_lt (b : Bytes) : b.value < Nat.pow 256 b.length := by
  induction b using List.reverseRecOn with
  | nil => decide
  | append_singleton b x ih =>
    have hx := x.toNat_lt
    have hpow : Nat.pow 256 (b.length + 1) = Nat.pow 256 b.length * 256 := rfl
    rw [value_append, List.length_append, List.length_singleton, hpow]
    omega

/-- Eight bytes are a word, the one that they spell. -/
theorem toWord?_eq_some {b : Bytes} (h : b.length = 8) :
    ∃ w, toWord? b = some w ∧ w.toNat = b.value := by
  have hlt : b.value < UInt64.size := by
    have hvalue := b.value_lt
    rwa [h] at hvalue
  exact ⟨_, if_pos h, UInt64.toNat_ofNat_of_lt' hlt⟩

/-! ## Texts -/

theorem ofString_injective {s t : String} (h : ofString s = ofString t) : s = t := by
  have hs := toString?_ofString s
  rw [h, toString?_ofString] at hs
  exact (Option.some.inj hs).symm

end Chronicle.Bytes
