-- SUMMARY: JSON numbers as they are written, and the kind of number that each one stands for.

/-!
# Numbers

A numeral without fraction and exponent is an integer when it fits a word, unsigned or, with a minus
sign in front, signed. Everything else is a floating-point number: a fraction, an exponent, an
integer beyond 64 bits, and minus zero. A floating-point number must be below `2 ^ 1024` once it is
rounded; its value is not looked at otherwise.

The value of a floating-point number is rounded twice. Its first digits are rounded to 53 binary
places, and so is their product with the power of ten that the point, the exponent and the digits
left over amount to. Digits are kept while their value fits a word, first those in front of the
point and then those behind it, each up to the first that does not fit.
-/

namespace Chronicle.Json

/-- A number as it is written. -/
structure Numeral where
  negative : Bool
  /-- The digits before the point, without superfluous zeros. -/
  whole : List Char
  /-- The digits after the point; none where there is no point. -/
  fraction : List Char
  /-- The exponent with its sign. -/
  exponent : Option (Bool × List Char)
  deriving DecidableEq

namespace Numeral

def digitsValue (ds : List Char) : Nat :=
  Nat.ofDigitChars 10 ds 0

/-- Neither point nor exponent. -/
def isInteger (n : Numeral) : Bool :=
  n.fraction.isEmpty && n.exponent.isNone

/-- The number as it is written. -/
def toChars (n : Numeral) : List Char :=
  (if n.negative then ['-'] else []) ++ n.whole
    ++ (if n.fraction.isEmpty then [] else '.' :: n.fraction)
    ++ match n.exponent with
      | none => []
      | some (negative, ds) => 'e' :: (if negative then ['-'] else []) ++ ds

/-! ## Floating-point range -/

/-- Round an integer to 53 binary places, a half to the even neighbour. -/
def round53 (n : Nat) : Nat :=
  let unit := Nat.pow 2 (n.log2 + 1 - 53)
  let down := n / unit
  let rest := n % unit
  if unit < 2 * rest ∨ (2 * rest = unit ∧ down % 2 = 1) then (down + 1) * unit else down * unit

/-- Append digits to a value for as long as it fits a word. Gives the digits left over. -/
def significand : (value : Nat) → List Char → Nat × List Char
  | value, [] => (value, [])
  | value, d :: ds =>
    let next := value * 10 + (d.toNat - '0'.toNat)
    if next < UInt64.size then significand next ds else (value, d :: ds)

/-- The digits that are kept and the power of ten by which they are scaled. A digit left over before
the point raises the power, and a digit kept behind the point lowers it. -/
def scaled (n : Numeral) : Nat × Int :=
  let e : Int :=
    match n.exponent with
    | none => 0
    | some (negative, ds) => if negative then -(digitsValue ds : Int) else digitsValue ds
  let (value, wholeLeft) := significand 0 n.whole
  let (value, fractionLeft) := significand value n.fraction
  (value, e + wholeLeft.length - (n.fraction.length - fractionLeft.length : Nat))

/-- The rounded value lies below `2 ^ 1024`. -/
def isFinite (n : Numeral) : Bool :=
  let (value, e) := n.scaled
  value = 0 || e < 0
    || (e ≤ 308 && round53 (round53 value * round53 (Nat.pow 10 e.toNat)) < Nat.pow 2 1024)

end Numeral

end Chronicle.Json
