-- SUMMARY: Byte strings: big-endian words, the bytes of a text, and the hexadecimal form.
import Chronicle.Text.Hexadecimal

/-!
# Byte strings

A word is stored as eight bytes, the most significant first, so that the order of byte strings is
the order of words. A byte string of any other length is no word.
-/

namespace Chronicle

abbrev Bytes := List UInt8

namespace Bytes

/-- The lowest `count` bytes of a number, the most significant first. -/
def bigEndian : (count : Nat) → Nat → Bytes
  | 0, _ => []
  | count + 1, n => bigEndian count (n / 256) ++ [UInt8.ofNat (n % 256)]

/-- The number that bytes spell, the most significant first. -/
def value (b : Bytes) : Nat :=
  b.foldl (fun n x => n * 256 + x.toNat) 0

/-- A word in eight bytes. -/
def ofWord (w : UInt64) : Bytes :=
  bigEndian 8 w.toNat

/-- The word that eight bytes spell. -/
def toWord? (b : Bytes) : Option UInt64 :=
  if b.length = 8 then some (UInt64.ofNat b.value) else none

/-- The bytes of a text in UTF-8. -/
def ofString (s : String) : Bytes :=
  s.toUTF8.data.toList

/-- The text that bytes spell in UTF-8. -/
def toString? (b : Bytes) : Option String :=
  String.fromUTF8? ⟨b.toArray⟩

/-- Two digits for each byte. -/
def toHex (b : Bytes) : String :=
  String.ofList (b.flatMap fun x =>
    [Text.Hexadecimal.digit (x.toNat / 16), Text.Hexadecimal.digit x.toNat])

/-- The bytes that pairs of digits spell. -/
def ofHexDigits? : List Char → Option Bytes
  | [] => some []
  | a :: b :: rest =>
    match Text.Hexadecimal.digit? a, Text.Hexadecimal.digit? b, ofHexDigits? rest with
    | some a, some b, some bytes => some (UInt8.ofNat (a * 16 + b) :: bytes)
    | _, _, _ => none
  | _ => none

def ofHex? (s : String) : Option Bytes :=
  ofHexDigits? s.toList

@[simp] theorem length_bigEndian (count n : Nat) : (bigEndian count n).length = count := by
  induction count generalizing n with
  | zero => rfl
  | succ count ih => simp [bigEndian, ih]

theorem value_append (b : Bytes) (x : UInt8) : value (b ++ [x]) = value b * 256 + x.toNat := by
  simp [value]

theorem value_bigEndian (count n : Nat) : value (bigEndian count n) = n % Nat.pow 256 count := by
  induction count generalizing n with
  | zero => exact (Nat.mod_one n).symm
  | succ count ih =>
    have h : (UInt8.ofNat (n % 256)).toNat = n % 256 :=
      UInt8.toNat_ofNat_of_lt' (Nat.mod_lt _ (by decide))
    rw [bigEndian, value_append, ih, h,
      show Nat.pow 256 (count + 1) = 256 * Nat.pow 256 count from Nat.mul_comm _ _, Nat.mod_mul]
    omega

@[simp] theorem toWord?_ofWord (w : UInt64) : toWord? (ofWord w) = some w := by
  have := w.toNat_lt
  simp only [toWord?, ofWord, length_bigEndian, value_bigEndian, if_pos]
  rw [Nat.mod_eq_of_lt (by simpa using this), UInt64.ofNat_toNat]

@[simp] theorem toString?_ofString (s : String) : toString? (ofString s) = some s := by
  have h : (⟨(ofString s).toArray⟩ : ByteArray) = s.toUTF8 := by simp [ofString]
  rw [toString?, h]
  exact dif_pos s.isValidUTF8

@[simp] theorem ofHex?_toHex (b : Bytes) : ofHex? (toHex b) = some b := by
  have h : ∀ b : Bytes, ofHexDigits? (toHex b).toList = some b := by
    intro b
    induction b with
    | nil => rfl
    | cons x b ih =>
      have hx : (UInt8.ofNat (x.toNat / 16 % 16 * 16 + x.toNat % 16)) = x := by
        have := x.toNat_lt
        rw [show x.toNat / 16 % 16 * 16 + x.toNat % 16 = x.toNat by omega, UInt8.ofNat_toNat]
      simp only [toHex, String.toList_ofList] at ih ⊢
      simp [ofHexDigits?, ih, hx]
  exact h b

end Bytes

end Chronicle
