-- SUMMARY: The display form is written into a buffer digit by digit, each at its place, and never past an end.
import Chronicle.Proofs.Uid.Canonical
import Chronicle.Proofs.Uid.Packing

/-!
# Display forms in a buffer

Two loops write bytes: one takes the digits of a storage integer from the lowest on, the other
writes their symbols in the order of the display form. Both have room for what they write, since a
storage integer has at most 11 digits, and what they leave is the bytes between the parts of the
array in front of them and behind them.
-/

namespace Chronicle.Uid

/-! ## Consecutive bytes -/

/-- Bytes that fit are written, and nothing else changes. -/
theorem Buffer.putAll?_eq_some (buffer : Buffer) {i : Nat} {bytes : List UInt8}
    (h : i + bytes.length ≤ 11) :
    ∃ out, buffer.putAll? i bytes = some out ∧
      out.toList = buffer.toList.take i ++ bytes ++ buffer.toList.drop (i + bytes.length) := by
  induction bytes generalizing i buffer with
  | nil => exact ⟨buffer, rfl, by simp⟩
  | cons byte bytes ih =>
    rw [List.length_cons] at h
    have hi : i < 11 := by omega
    obtain ⟨out, hout, hlist⟩ := ih (buffer.set i byte) (i := i + 1) (by omega)
    refine ⟨out, ?_, ?_⟩
    · simp only [putAll?, put?, dif_pos hi]
      exact hout
    · have hlength : buffer.toList.length = 11 := Vector.length_toList
      have htake : (buffer.toList.set i byte).take (i + 1) = buffer.toList.take i ++ [byte] := by
        rw [List.take_add_one, List.take_set_of_le (Nat.le_refl i),
          List.getElem?_set_self (by omega)]
        rfl
      rw [hlist, Vector.toList_set, htake, List.drop_set_of_lt (by omega), List.length_cons,
        Nat.add_assoc, Nat.add_comm 1, List.append_assoc, List.append_assoc, List.append_assoc]
      rfl

/-! ## Digits -/

/-- A digit as a byte. -/
def digitByte (d : Digit) : UInt8 :=
  UInt8.ofNat d

theorem symbolByte?_digitByte (d : Digit) : symbolByte? (digitByte d) = some (symbol d).toUInt8 := by
  revert d
  decide

theorem lowDigit_lt (n : Nat) : n % 64 < 64 :=
  Nat.mod_lt n (by decide)

/-- The lowest digit of a number. -/
def lowDigit (n : Nat) : Digit :=
  ⟨n % 64, lowDigit_lt n⟩

theorem lowDigits_of_ne_zero {n : Nat} (h : n ≠ 0) :
    lowDigits n = lowDigit n :: lowDigits (n / 64) := by
  rw [lowDigits, if_neg h]
  rfl

theorem digitByte_lowDigit (n : UInt64) : digitByte (lowDigit n.toNat) = (n &&& 0x3F).toUInt8 := by
  have hmask : (n &&& 0x3F).toNat = n.toNat % 2 ^ 6 := toNat_and_mask 6 rfl
  apply UInt8.toNat_inj.1
  rw [digitByte, UInt8.toNat_ofNat', UInt64.toNat_toUInt8, hmask]
  rfl

/-- The digits of a number are written one behind the other. -/
theorem takeDigits?_eq (rest : UInt64) (count : Nat) (digits : Buffer) :
    takeDigits? rest count digits =
      (digits.putAll? count ((lowDigits rest.toNat).map digitByte)).map
        (count + (lowDigits rest.toNat).length, ·) := by
  fun_induction takeDigits? rest count digits with
  | case1 count digits => simp [Buffer.putAll?]
  | case2 rest count digits hrest after hput ih =>
    have hne := mt UInt64.toNat_inj.1 hrest
    rw [lowDigits_of_ne_zero hne, List.map_cons, Buffer.putAll?, digitByte_lowDigit, hput]
    simp only
    rw [ih, toNat_shiftRight_six, List.length_cons, Nat.add_assoc, Nat.add_comm 1]
  | case3 rest count digits hrest hput =>
    have hne := mt UInt64.toNat_inj.1 hrest
    rw [lowDigits_of_ne_zero hne, List.map_cons, Buffer.putAll?, digitByte_lowDigit, hput]
    rfl

theorem mapM_symbolByte?_map_digitByte (ds : List Digit) :
    (ds.map digitByte).mapM symbolByte? = some ((ds.map symbol).map Char.toUInt8) := by
  induction ds with
  | nil => rfl
  | cons d ds ih => simp [List.mapM_cons, symbolByte?_digitByte, ih]

/-- The digit of weight `64 ^ k`, for every weight that the number reaches. -/
theorem getElem?_lowDigits {n k : Nat} (h : 64 ^ k ≤ n) :
    (lowDigits n)[k]? = some (lowDigit (n / 64 ^ k)) := by
  have hne : n ≠ 0 := Nat.ne_of_gt (Nat.lt_of_lt_of_le (Nat.pow_pos (by decide)) h)
  rw [lowDigits_of_ne_zero hne]
  induction k generalizing n with
  | zero => simp
  | succ k ih =>
    have hrest : 64 ^ k ≤ n / 64 := by
      rw [Nat.le_div_iff_mul_le (by decide), ← Nat.pow_succ]
      exact h
    have hne : n / 64 ≠ 0 := Nat.ne_of_gt (Nat.lt_of_lt_of_le (Nat.pow_pos (by decide)) hrest)
    rw [List.getElem?_cons_succ, lowDigits_of_ne_zero hne, ih hrest hne, Nat.div_div_eq_div_mul,
      Nat.pow_succ']

/-- All but the first come in reverse order. -/
theorem getElem?_rotate {α : Type} {ds : List α} {i : Nat} (hi : 1 ≤ i) (h : i < ds.length) :
    (rotate ds)[i]? = ds[ds.length - i]? := by
  match ds, i with
  | d :: ds, i + 1 =>
    rw [List.length_cons, Nat.succ_lt_succ_iff] at h
    have hback : ds.length + 1 - (i + 1) = ds.length - 1 - i + 1 := by omega
    rw [rotate, List.getElem?_cons_succ, List.getElem?_reverse h, List.length_cons, hback,
      List.getElem?_cons_succ]

/-! ## The display form -/

/-- One symbol for each digit. -/
theorem length_displaySymbols (u : Uid) :
    u.displaySymbols.length = (lowDigits u.raw.toNat).length := by
  rw [displaySymbols, List.length_map, length_rotate]

/-- A storage integer has as many digits as its size asks for, from 4 to 11. -/
theorem length_displaySymbols_bounds (u : Uid) :
    4 ≤ u.displaySymbols.length ∧ u.displaySymbols.length ≤ 11 ∧
      64 ^ (u.displaySymbols.length - 1) ≤ u.raw.toNat ∧
      u.raw.toNat < 64 ^ u.displaySymbols.length := by
  have hmin : 64 ^ 3 ≤ u.raw.toNat := u.le_toNat_raw
  have hmax : u.raw.toNat < 64 ^ 11 := Nat.lt_of_lt_of_le (UInt64.toNat_lt u.raw) (by decide)
  have hfew : ¬ (lowDigits u.raw.toNat).length ≤ 3 :=
    fun h => absurd (length_lowDigits_le_iff.1 h) (Nat.not_lt.2 hmin)
  rw [length_displaySymbols]
  refine ⟨by omega, length_lowDigits_le_iff.2 hmax, ?_, length_lowDigits_le_iff.1 (Nat.le_refl _)⟩
  refine Nat.not_lt.1 fun hlt => ?_
  have hle := length_lowDigits_le_iff.2 hlt
  omega

/-- The symbol of the digit of weight `64 ^ k` in the storage integer. -/
def symbolOfWeight (u : Uid) (k : Nat) : Char :=
  symbol (lowDigit (u.raw.toNat / 64 ^ k))

/-- The first symbol is that of the lowest digit. -/
theorem getElem?_displaySymbols_zero (u : Uid) :
    u.displaySymbols[0]? = some (u.symbolOfWeight 0) := by
  have hne : u.raw.toNat ≠ 0 := by
    have hmin := u.le_toNat_raw
    omega
  rw [displaySymbols, lowDigits_of_ne_zero hne, rotate, List.map_cons, List.getElem?_cons_zero,
    symbolOfWeight, Nat.pow_zero, Nat.div_one]

/-- The symbols behind the first are those of the other digits from the top down. -/
theorem getElem?_displaySymbols {u : Uid} {i : Nat} (hi : 1 ≤ i) (h : i < u.displaySymbols.length) :
    u.displaySymbols[i]? = some (u.symbolOfWeight (u.displaySymbols.length - i)) := by
  obtain ⟨-, -, hsize, -⟩ := u.length_displaySymbols_bounds
  have hweight : 64 ^ (u.displaySymbols.length - i) ≤ u.raw.toNat :=
    Nat.le_trans (Nat.pow_le_pow_right (by decide) (by omega)) hsize
  rw [length_displaySymbols] at h hweight ⊢
  rw [displaySymbols, List.getElem?_map, getElem?_rotate hi h, getElem?_lowDigits hweight]
  rfl

/-- The digits of a number with few enough of them stand at the start of the array. -/
theorem takeDigits?_eq_some {n : UInt64} {low : Digit} {high : List Digit}
    (hdigits : lowDigits n.toNat = low :: high) (hmany : high.length + 1 ≤ 11) :
    ∃ digits, takeDigits? n 0 (Vector.replicate 11 0) = some (high.length + 1, digits) ∧
      digits[0] = digitByte low ∧ digits.slice? 1 (high.length + 1) = some (high.map digitByte) := by
  have hroom : 0 + ((low :: high).map digitByte).length ≤ 11 := by simpa using hmany
  obtain ⟨digits, hput, hlist⟩ := Buffer.putAll?_eq_some (Vector.replicate 11 0) hroom
  refine ⟨digits, ?_, ?_, ?_⟩
  · rw [takeDigits?_eq, hdigits, hput, Option.map_some, List.length_cons, Nat.zero_add]
  · have hfirst : digits.toList[0]? = some (digitByte low) := by
      rw [hlist]
      rfl
    simpa using hfirst
  · rw [Buffer.slice?, if_pos (by omega), hlist]
    simp

/-- The bytes of the display form stand at the start of the buffer, and behind them it is as it
was. -/
theorem writeDisplay?_eq_some (u : Uid) (buffer : Buffer) :
    ∃ out, u.writeDisplay? buffer = some (u.displaySymbols.length, out) ∧
      out.toList = u.displaySymbols.map Char.toUInt8
        ++ buffer.toList.drop u.displaySymbols.length := by
  obtain ⟨hfew, hmany, -, -⟩ := u.length_displaySymbols_bounds
  cases hdigits : lowDigits u.raw.toNat with
  | nil =>
    rw [displaySymbols, hdigits] at hfew
    simp [rotate] at hfew
  | cons low high =>
    have hsymbols : u.displaySymbols = symbol low :: high.reverse.map symbol := by
      rw [displaySymbols, hdigits, rotate, List.map_cons]
    have hlength : u.displaySymbols.length = high.length + 1 := by simp [hsymbols]
    rw [hlength] at hmany
    obtain ⟨digits, htake, hlow, hhigh⟩ := takeDigits?_eq_some hdigits hmany
    have hroom : 0 + (u.displaySymbols.map Char.toUInt8).length ≤ 11 := by
      rw [List.length_map, hlength]
      omega
    obtain ⟨out, hput, hlist⟩ := Buffer.putAll?_eq_some buffer hroom
    refine ⟨out, ?_, ?_⟩
    · rw [hsymbols, List.map_cons] at hput
      simp only [writeDisplay?, htake, hlow, hhigh, symbolByte?_digitByte, ← List.map_reverse,
        mapM_symbolByte?_map_digitByte, hput, hlength, Option.bind_eq_bind, Option.bind_some,
        Option.pure_def]
    · rw [hlist, List.length_map, Nat.zero_add]
      rfl

/-- A text of symbols is encoded in as many bytes. -/
theorem utf8Encode_eq_map {cs : List Char} (h : ∀ c ∈ cs, c ∈ alphabet) :
    cs.utf8Encode = (cs.map Char.toUInt8).toByteArray := by
  have hbytes : cs.flatMap String.utf8EncodeChar = cs.map Char.toUInt8 := by
    induction cs with
    | nil => rfl
    | cons c cs ih =>
      obtain ⟨hc, hcs⟩ := List.forall_mem_cons.1 h
      rw [List.flatMap_cons, String.utf8EncodeChar_eq_singleton (utf8Size_of_mem_alphabet hc),
        ih hcs]
      rfl
  rw [List.utf8Encode, hbytes]

/-- Writing a display form into a buffer uses no position that an array does not have, whatever the
buffer holds. As many symbols are written as the storage integer has digits in base 64, which are 4
to 11: first that of the lowest digit, then those of the others from the top down. Behind them the
buffer is as it was, and before it stand the bytes of the display form. -/
theorem writeDisplay_places_digits (u : Uid) (buffer : Buffer) :
    ∃ (n : Nat) (out : Buffer), u.writeDisplay? buffer = some (n, out) ∧
      u.writeDisplay buffer = (n, out) ∧
      4 ≤ n ∧ n ≤ 11 ∧ 64 ^ (n - 1) ≤ u.raw.toNat ∧ u.raw.toNat < 64 ^ n ∧
      out[0]? = some (u.symbolOfWeight 0).toUInt8 ∧
      (∀ i, 1 ≤ i → i < n → out[i]? = some (u.symbolOfWeight (n - i)).toUInt8) ∧
      (∀ i, n ≤ i → out[i]? = buffer[i]?) ∧
      u.toDisplay.toUTF8 = (out.toList.take n).toByteArray := by
  obtain ⟨hfew, hmany, hle, hlt⟩ := u.length_displaySymbols_bounds
  obtain ⟨out, hwrite, hlist⟩ := u.writeDisplay?_eq_some buffer
  have hshown : ∀ i, i < u.displaySymbols.length →
      out[i]? = u.displaySymbols[i]?.map Char.toUInt8 := by
    intro i hi
    rw [← Vector.getElem?_toList, hlist, List.getElem?_append_left (by simpa using hi),
      List.getElem?_map]
  refine ⟨_, out, hwrite, ?total, hfew, hmany, hle, hlt, ?first, ?others, ?behind, ?bytes⟩
  case total =>
    rw [writeDisplay, hwrite]
    rfl
  case first =>
    rw [hshown 0 (by omega), getElem?_displaySymbols_zero]
    rfl
  case others =>
    intro i hpos hi
    rw [hshown i hi, getElem?_displaySymbols hpos hi]
    rfl
  case behind =>
    intro i hend
    rw [← Vector.getElem?_toList, hlist, List.getElem?_append_right (by simpa using hend),
      List.length_map, List.getElem?_drop, Nat.add_sub_cancel' hend, Vector.getElem?_toList]
  case bytes =>
    have hsymbols : ∀ c ∈ u.displaySymbols, c ∈ alphabet := by
      intro c hc
      rw [← toList_toDisplay] at hc
      exact mem_alphabet_of_mem_toDisplay hc
    rw [hlist, List.take_left' (by rw [List.length_map]), ← utf8Encode_eq_map hsymbols]
    exact String.toByteArray_ofList

end Chronicle.Uid
