-- SUMMARY: Reading an identifier from any form in which one may be given.
import Chronicle.Text.Blank
import Chronicle.Text.Decimal
import Chronicle.Uid.Display

/-!
# Reading identifiers

A caller that knows which form it holds says so. A text of unknown origin may hold either form:
digits that spell a storage integer are read as one, anything else must be a display form. A
display form made of digits alone is therefore read as a number when the number is in range.
-/

namespace Chronicle.Uid

/-- A form in which an identifier may be given. -/
inductive Input where
  | storage (raw : UInt64)
  | signed (raw : Int64)
  | display (s : String)
  /-- A storage integer in decimal or a display form, blanks around it allowed. -/
  | text (s : String)
  | parsed (u : Uid)

/-- The identifier whose storage integer is written in decimal digits, leading zeros included. -/
def ofDecimal? (cs : List Char) : Option Uid :=
  (Text.Decimal.digits? cs).bind ofNat?

/-- The identifier given by a text of unknown origin. A refused text is named without the blanks
around it. -/
def ofText (s : String) : Except Fault Uid :=
  match ofDecimal? (Text.trimBlanks s.toList) with
  | some u => .ok u
  | none => ofDisplay (Text.trim s)

/-- The identifier given in any form. -/
def parse : Input → Except Fault Uid
  | .storage raw => ofRaw raw
  | .signed raw => ofInt64 raw
  | .display s => ofDisplay s
  | .text s => ofText s
  | .parsed u => .ok u

end Chronicle.Uid
