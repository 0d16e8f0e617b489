-- SUMMARY: Texts of ASCII digits: which of them are display forms, which are storage integers, and which are both.
import Chronicle.Proofs.Uid.Canonical
import Chronicle.Uid.Parse
import Mathlib.Tactic.Ring

/-!
# Texts of digits

The ten digits stand behind the letters in the alphabet, as the symbols of 52 to 61. Read as a
display form, digits therefore spell a number that is large for their count, and eleven of them are
too large; read in decimal they spell a small one, and five of them are too small for a storage
integer. What is left between are the texts of 6 to 10 digits, and these are read in two ways.
-/

namespace Chronicle.Uid

/-! ## Numbers by place value -/

section Places

variable {α : Type} (b : Nat) (digit : α → Nat)

/-- Every digit read multiplies what was read before it by the base. -/
theorem le_foldl_digits (cs : List α) (n : Nat) :
    n * b ^ cs.length ≤ cs.foldl (fun n c => b * n + digit c) n := by
  induction cs generalizing n with
  | nil => simp
  | cons c cs ih =>
    calc n * b ^ (c :: cs).length
      _ = b * n * b ^ cs.length := by rw [List.length_cons, pow_succ]; ring
      _ ≤ (b * n + digit c) * b ^ cs.length := Nat.mul_le_mul_right _ (Nat.le_add_right _ _)
      _ ≤ cs.foldl (fun n c => b * n + digit c) (b * n + digit c) := ih _

/-- Digits below the base that are read behind `n` do not reach what `n + 1` would make. -/
theorem foldl_digits_lt {cs : List α} (h : ∀ c ∈ cs, digit c < b) (n : Nat) :
    cs.foldl (fun n c => b * n + digit c) n < (n + 1) * b ^ cs.length := by
  induction cs generalizing n with
  | nil => simp
  | cons c cs ih =>
    obtain ⟨hc, hcs⟩ := List.forall_mem_cons.1 h
    calc (c :: cs).foldl (fun n c => b * n + digit c) n
      _ < (b * n + digit c + 1) * b ^ cs.length := ih hcs _
      _ ≤ (b * n + b) * b ^ cs.length := Nat.mul_le_mul_right _ (by omega)
      _ = (n + 1) * b ^ (c :: cs).length := by rw [List.length_cons, pow_succ]; ring

end Places

/-! ## Digits as symbols -/

theorem toNat_sub_lt_of_isDigit {c : Char} (h : c.isDigit = true) : c.toNat - '0'.toNat < 10 := by
  obtain ⟨-, hhi⟩ := Char.isDigit_iff_toNat.1 h
  simp only [Char.reduceToNat] at hhi ⊢
  omega

/-- The digits stand behind the 52 letters, in their order. -/
theorem idxOf_of_isDigit {c : Char} (h : c.isDigit = true) :
    alphabet.idxOf c = 52 + (c.toNat - '0'.toNat) := by
  have hall : ∀ d < 10, alphabet.idxOf (Nat.digitChar d) = 52 + d := by decide
  have hd := toNat_sub_lt_of_isDigit h
  obtain ⟨hlo, -⟩ := Char.isDigit_iff_toNat.1 h
  have hc : Nat.digitChar (c.toNat - '0'.toNat) = c := by
    rw [← Char.toNat_inj, Nat.toNat_digitChar_of_lt_ten hd]
    simp only [Char.reduceToNat] at hlo ⊢
    omega
  rw [← hall _ hd, hc]

theorem mem_alphabet_of_isDigit {c : Char} (h : c.isDigit = true) : c ∈ alphabet := by
  have hd := toNat_sub_lt_of_isDigit h
  rw [← List.idxOf_lt_length_iff, idxOf_of_isDigit h, length_alphabet]
  omega

/-- Symbols spell a number of as many digits. -/
theorem spelled_lt {cs : List Char} (h : ∀ c ∈ cs, c ∈ alphabet) : spelled cs < 64 ^ cs.length := by
  cases cs with
  | nil => decide
  | cons low high =>
    have hdigits : ∀ c ∈ high ++ [low], alphabet.idxOf c < 64 := by
      intro c hc
      rw [← length_alphabet, List.idxOf_lt_length_iff]
      exact h c (by simpa [or_comm] using hc)
    have hlt := foldl_digits_lt 64 alphabet.idxOf hdigits 0
    simpa [spelled] using hlt

/-- The most significant symbol of a text of digits is 52 at least. -/
theorem le_spelled_of_isDigit {cs : List Char} (h : ∀ c ∈ cs, c.isDigit = true)
    (hlen : 2 ≤ cs.length) : 52 * 64 ^ (cs.length - 1) ≤ spelled cs := by
  match cs with
  | [] | [_] => simp at hlen
  | low :: high :: rest =>
    have hhigh : 52 ≤ 64 * 0 + alphabet.idxOf high := by
      rw [idxOf_of_isDigit (h high (by simp))]
      omega
    calc 52 * 64 ^ (rest.length + 1)
      _ ≤ (64 * 0 + alphabet.idxOf high) * 64 ^ (rest.length + 1) := Nat.mul_le_mul_right _ hhigh
      _ = (64 * 0 + alphabet.idxOf high) * 64 ^ (rest ++ [low]).length := by simp
      _ ≤ spelled (low :: high :: rest) := le_foldl_digits 64 alphabet.idxOf _ _

/-! ## Digits as a display form -/

theorem spelled_toDisplay (u : Uid) : spelled u.toDisplay.toList = u.raw.toNat := by
  rw [toList_toDisplay, displaySymbols, spelled_symbols, rotate_rotate, ofLowDigits_lowDigits]

theorem exists_eq_toDisplay_iff {s : String} : (∃ u : Uid, s = u.toDisplay) ↔ ¬ Malformed s := by
  rw [← ofDisplay?_eq_none_iff, ofDisplay?_eq_none_iff_ne, not_forall_not]

/-- A text of digits is a display form if it has 4 to 10 of them: its second symbol is never that
of zero, and eleven digits spell a number beyond 63 bits. -/
theorem exists_eq_toDisplay_iff_of_isDigit {s : String} (h : ∀ c ∈ s.toList, c.isDigit = true) :
    (∃ u : Uid, s = u.toDisplay) ↔ 4 ≤ s.length ∧ s.length ≤ 10 := by
  have hsymbols : ∀ c ∈ s.toList, c ∈ alphabet := fun c hc => mem_alphabet_of_isDigit (h c hc)
  have hsize : s.utf8ByteSize = s.toList.length := utf8ByteSize_eq_length hsymbols
  rw [exists_eq_toDisplay_iff, ← String.length_toList]
  constructor
  · intro hgood
    have hshort := mt Malformed.short hgood
    have hlong := mt Malformed.long hgood
    have hlarge := mt Malformed.large hgood
    rw [hsize, minDisplayLength] at hshort
    rw [hsize, maxDisplayLength] at hlong
    refine ⟨by omega, Nat.not_lt.1 fun hmany => hlarge ?_⟩
    have heleven : s.toList.length = 11 := by omega
    have hspelled := le_spelled_of_isDigit h (by omega)
    rw [heleven] at hspelled
    exact Nat.le_trans (by decide) hspelled
  · rintro ⟨hfew, hmany⟩ hbad
    cases hbad with
    | short hlt => rw [hsize, minDisplayLength] at hlt; omega
    | long hlt => rw [hsize, maxDisplayLength] at hlt; omega
    | foreign c hc hforeign => exact hforeign (hsymbols c hc)
    | leadingZero hzero => exact absurd (h 'A' (List.mem_of_getElem? hzero)) (by decide)
    | large hle =>
      have hlt : spelled s.toList < 64 ^ 10 :=
        Nat.lt_of_lt_of_le (spelled_lt hsymbols) (Nat.pow_le_pow_right (by decide) hmany)
      omega

/-! ## Digits in decimal -/

/-- The number that a text of digits spells in decimal. -/
def decimalValue (s : String) : Nat :=
  Nat.ofDigitChars 10 s.toList 0

theorem ofDigitChars_lt {cs : List Char} (h : ∀ c ∈ cs, c.isDigit = true) :
    Nat.ofDigitChars 10 cs 0 < 10 ^ cs.length := by
  have hdigits : ∀ c ∈ cs, c.toNat - '0'.toNat < 10 := fun c hc => toNat_sub_lt_of_isDigit (h c hc)
  rw [Nat.ofDigitChars_eq_foldl]
  calc cs.foldl (fun n c => 10 * n + (c.toNat - '0'.toNat)) 0
    _ < (0 + 1) * 10 ^ cs.length := foldl_digits_lt 10 _ hdigits 0
    _ = 10 ^ cs.length := Nat.one_mul _

/-- In decimal, digits spell less than as symbols. -/
theorem ofDigitChars_lt_spelled {cs : List Char} (h : ∀ c ∈ cs, c.isDigit = true)
    (hlen : 2 ≤ cs.length) : Nat.ofDigitChars 10 cs 0 < spelled cs := by
  have hpow : 10 ^ (cs.length - 1) ≤ 64 ^ (cs.length - 1) := Nat.pow_le_pow_left (by decide) _
  calc Nat.ofDigitChars 10 cs 0
    _ < 10 ^ cs.length := ofDigitChars_lt h
    _ = 10 ^ (cs.length - 1) * 10 := (Nat.pow_pred_mul (by omega)).symm
    _ ≤ 52 * 64 ^ (cs.length - 1) := by omega
    _ ≤ spelled cs := le_spelled_of_isDigit h hlen

theorem ofDecimal?_eq_some_iff {cs : List Char} {u : Uid} :
    ofDecimal? cs = some u
      ↔ (∀ c ∈ cs, c.isDigit = true) ∧ Nat.ofDigitChars 10 cs 0 = u.raw.toNat := by
  have hmin := u.le_toNat_raw
  rw [ofDecimal?, Option.bind_eq_some_iff]
  simp only [Text.Decimal.digits?_eq_some_iff, List.all_eq_true, ofNat?_eq_some_iff]
  constructor
  · rintro ⟨n, ⟨-, hdigits, rfl⟩, hn⟩
    exact ⟨hdigits, hn.symm⟩
  · rintro ⟨hdigits, hn⟩
    refine ⟨_, ⟨?_, hdigits, rfl⟩, hn.symm⟩
    rintro rfl
    rw [Nat.ofDigitChars_nil] at hn
    omega

/-- A storage integer in decimal, with leading zeros or without. -/
structure StorageText (s : String) : Prop where
  digits : ∀ c ∈ s.toList, c.isDigit = true
  minRaw_le : minRaw.toNat ≤ decimalValue s
  le_maxRaw : decimalValue s ≤ maxRaw.toNat

theorem exists_ofDecimal?_iff {s : String} :
    (∃ u, ofDecimal? s.toList = some u) ↔ StorageText s := by
  constructor
  · rintro ⟨u, hu⟩
    obtain ⟨hdigits, hvalue⟩ := ofDecimal?_eq_some_iff.1 hu
    refine ⟨hdigits, ?_, ?_⟩
    · rw [decimalValue, hvalue]
      exact UInt64.le_iff_toNat_le.1 u.minRaw_le
    · rw [decimalValue, hvalue]
      exact UInt64.le_iff_toNat_le.1 u.le_maxRaw
  · rintro ⟨hdigits, hmin, hmax⟩
    obtain ⟨u, hu⟩ := Option.ne_none_iff_exists'.1 fun hnone =>
      Nat.not_le.2 (Nat.lt_succ_of_le hmax) ((ofNat?_eq_none_iff hmin).1 hnone)
    exact ⟨u, ofDecimal?_eq_some_iff.2 ⟨hdigits, (ofNat?_eq_some_iff.1 hu).symm⟩⟩

/-! ## Digits that are both -/

/-- A text of digits that is a display form and also a storage integer in decimal. -/
structure Ambiguous (s : String) : Prop where
  digits : ∀ c ∈ s.toList, c.isDigit = true
  six_le : 6 ≤ s.length
  le_ten : s.length ≤ 10
  minRaw_le : 2 ^ 18 ≤ decimalValue s

theorem ambiguous_iff {s : String} :
    Ambiguous s ↔ s.toList.all Char.isDigit = true ∧ 6 ≤ s.length ∧ s.length ≤ 10 ∧
      2 ^ 18 ≤ decimalValue s := by
  rw [List.all_eq_true]
  exact ⟨fun ⟨hdigits, hfew, hmany, hmin⟩ => ⟨hdigits, hfew, hmany, hmin⟩,
    fun ⟨hdigits, hfew, hmany, hmin⟩ => ⟨hdigits, hfew, hmany, hmin⟩⟩

instance (s : String) : Decidable (Ambiguous s) :=
  decidable_of_iff _ ambiguous_iff.symm

/-- Five digits are too few for a storage integer. -/
theorem ambiguous_of_readings {u v : Uid} (h : ofDecimal? u.toDisplay.toList = some v) :
    Ambiguous u.toDisplay := by
  obtain ⟨hdigits, hvalue⟩ := ofDecimal?_eq_some_iff.1 h
  obtain ⟨-, hmany⟩ := (exists_eq_toDisplay_iff_of_isDigit hdigits).1 ⟨u, rfl⟩
  have hmin := v.le_toNat_raw
  have hlt := ofDigitChars_lt hdigits
  rw [hvalue, String.length_toList] at hlt
  refine ⟨hdigits, Nat.not_lt.1 fun hfew => ?_, hmany, by rwa [decimalValue, hvalue]⟩
  have hle : 10 ^ u.toDisplay.length ≤ 10 ^ 5 := Nat.pow_le_pow_right (by decide) (by omega)
  omega

/-- Both readings exist, and the decimal one is the smaller. -/
theorem Ambiguous.readings {s : String} (h : Ambiguous s) :
    ∃ u v : Uid, s = u.toDisplay ∧ ofDecimal? s.toList = some v ∧ v.raw.toNat < u.raw.toNat := by
  have hlen : s.toList.length = s.length := String.length_toList
  have hfew := h.six_le
  obtain ⟨u, hu⟩ := (exists_eq_toDisplay_iff_of_isDigit h.digits).2 ⟨by omega, h.le_ten⟩
  have hlt : decimalValue s < 10 ^ 10 :=
    Nat.lt_of_lt_of_le (ofDigitChars_lt h.digits)
      (Nat.pow_le_pow_right (by decide) (hlen ▸ h.le_ten))
  have hmax : decimalValue s ≤ maxRaw.toNat := Nat.le_trans (Nat.le_of_lt hlt) (by decide)
  obtain ⟨v, hv⟩ := exists_ofDecimal?_iff.2 ⟨h.digits, h.minRaw_le, hmax⟩
  have hvalue : decimalValue s = v.raw.toNat := (ofDecimal?_eq_some_iff.1 hv).2
  refine ⟨u, v, hu, hv, ?_⟩
  calc v.raw.toNat
    _ = decimalValue s := hvalue.symm
    _ < spelled s.toList := ofDigitChars_lt_spelled h.digits (by omega)
    _ = u.raw.toNat := by rw [hu, spelled_toDisplay]

example : Ambiguous "262144" := by decide
example : ¬ Ambiguous "262143" := by decide

end Chronicle.Uid
