-- SUMMARY: The display form of an identifier: writing it, reading it, and writing it into a buffer.
import Chronicle.Uid.Basic
import Chronicle.Uid.Digits

/-!
# Display forms

The storage integer in base 64, one symbol a digit, without leading zero symbols, with the least
significant symbol moved to the front. The front symbol varies most from one identifier to the
next; in return the order of display forms is not the order of identifiers. A display form has 4
to 11 symbols, and its second symbol, the most significant one, is not the zero symbol `A`, so
that no two forms name the same identifier. Into a buffer it is written byte by byte, by way of an
array of digits; each access to the two says whether the position exists.
-/

namespace Chronicle.Uid

/-! ## Symbols -/

/-- The symbols of the digits from 0 to 63. All of them may stand in a URL. -/
def alphabet : List Char :=
  "ABCDEFGHIJKLMNOPQRSTUVWXYZabcdefghijklmnopqrstuvwxyz0123456789-_".toList

theorem length_alphabet : alphabet.length = 64 := rfl

/-- The symbol of a digit. -/
def symbol (d : Digit) : Char :=
  alphabet[d.cast length_alphabet.symm]

/-- The digit of a symbol. -/
def digit? (c : Char) : Option Digit :=
  (alphabet.finIdxOf? c).map (Fin.cast length_alphabet)

/-- Length of the shortest display form, that of `minRaw`. -/
def minDisplayLength : Nat := 4

/-- Length of the longest display form, that of `maxRaw`. -/
def maxDisplayLength : Nat := 11

@[simp] theorem digit?_symbol (d : Digit) : digit? (symbol d) = some d := by
  revert d; decide

theorem symbol_of_digit? {c : Char} {d : Digit} (h : digit? c = some d) : symbol d = c := by
  obtain ⟨i, hi, rfl⟩ := Option.map_eq_some_iff.1 h
  exact (List.finIdxOf?_eq_some_iff.1 hi).1

/-! ## Writing -/

/-- The symbols of an identifier in the order in which they are shown. -/
def displaySymbols (u : Uid) : List Char :=
  (rotate (lowDigits u.raw.toNat)).map symbol

/-- The display form. -/
def toDisplay (u : Uid) : String :=
  String.ofList u.displaySymbols

instance : ToString Uid := ⟨toDisplay⟩

@[simp] theorem toList_toDisplay (u : Uid) : u.toDisplay.toList = u.displaySymbols :=
  String.toList_ofList

/-! ## Writing into a buffer -/

/-- Room for the longest display form. -/
abbrev Buffer := Vector UInt8 11

/-- Write a byte at a position, if the buffer has it. -/
def Buffer.put? (buffer : Buffer) (i : Nat) (byte : UInt8) : Option Buffer :=
  if h : i < 11 then some (buffer.set i byte) else none

/-- Write bytes one after another, from a position on. -/
def Buffer.putAll? (buffer : Buffer) (i : Nat) : List UInt8 → Option Buffer
  | [] => some buffer
  | byte :: bytes =>
    match buffer.put? i byte with
    | some buffer => buffer.putAll? (i + 1) bytes
    | none => none

/-- The bytes from position `start` up to, but without, position `stop`. -/
def Buffer.slice? (buffer : Buffer) (start stop : Nat) : Option (List UInt8) :=
  if start ≤ stop ∧ stop ≤ 11 then some ((buffer.toList.take stop).drop start) else none

theorem toNat_shiftRight_six (n : UInt64) : (n >>> 6).toNat = n.toNat / 64 := by
  rw [UInt64.toNat_shiftRight]
  exact Nat.shiftRight_eq_div_pow _ _

/-- Write the digits of a number, the lowest first, behind the `count` digits that are there
already. Gives the number of all. -/
def takeDigits? (rest : UInt64) (count : Nat) (digits : Buffer) : Option (Nat × Buffer) :=
  if rest = 0 then some (count, digits)
  else
    match digits.put? count (rest &&& 0x3F).toUInt8 with
    | some digits => takeDigits? (rest >>> 6) (count + 1) digits
    | none => none
termination_by rest.toNat
decreasing_by
  have hne : rest.toNat ≠ 0 := fun h => ‹¬ rest = 0› (UInt64.toNat_inj.1 h)
  have hshift := toNat_shiftRight_six rest
  omega

/-- The symbol of a digit as a byte. -/
def symbolByte? (d : UInt8) : Option UInt8 :=
  alphabet[d.toNat]?.map Char.toUInt8

/-- Write the display form over the start of a buffer. Gives the number of symbols written and the
buffer; nothing, if a position is used that an array does not have. -/
def writeDisplay? (u : Uid) (buffer : Buffer) : Option (Nat × Buffer) := do
  let (count, digits) ← takeDigits? u.raw 0 (Vector.replicate 11 0)
  let low ← symbolByte? digits[0]
  let high ← (← digits.slice? 1 count).reverse.mapM symbolByte?
  let buffer ← buffer.putAll? 0 (low :: high)
  return (count, buffer)

/-- Write the display form over the start of a buffer that is long enough for any. -/
def writeDisplay (u : Uid) (buffer : Buffer) : Nat × Buffer :=
  (u.writeDisplay? buffer).getD (0, buffer)

/-! ## Reading -/

/-- The number that the digits of a display form spell, if their count is right and the most
significant one, the second of them, is not zero. -/
def displayValue? (ds : List Digit) : Option Nat :=
  match ds with
  | low :: high :: rest =>
    if ds.length < minDisplayLength ∨ maxDisplayLength < ds.length ∨ high = 0 then none
    else some (ofLowDigits (rotate (low :: high :: rest)))
  | _ => none

/-- The identifier of a storage integer of any size. -/
def ofNat? (n : Nat) : Option Uid :=
  if n < UInt64.size then ofRaw? (UInt64.ofNat n) else none

/-- The identifier whose display form is given. -/
def ofDisplay? (s : String) : Option Uid :=
  (s.toList.mapM digit?).bind fun ds => (displayValue? ds).bind ofNat?

/-- The identifier whose display form is given; any other text is refused as it stands. -/
def ofDisplay (s : String) : Except Fault Uid :=
  match ofDisplay? s with
  | some u => .ok u
  | none => .error (.invalidIdentifier s)

def isDisplay (s : String) : Bool :=
  (ofDisplay? s).isSome

/-! ## Diagnostics -/

/-- Both forms and all fields on one line. -/
def debug (u : Uid) : String :=
  Text.record "Uid"
    [("storage", toString u.raw), ("display", Text.quoted u.toDisplay),
      ("timestamp", toString u.timestamp), ("worker_id", toString u.workerId),
      ("sequence", toString u.sequence), ("random", toString u.random)]

end Chronicle.Uid
