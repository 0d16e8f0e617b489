-- SUMMARY: Cursors: texts that stand for the key at which a page starts.
import Chronicle.Uid.Parse

/-!
# Cursors

A codec turns a non-empty cursor into a key and a key into a cursor. The empty cursor stands for
the edge of the order and is no codec's concern.
-/

namespace Chronicle

/-- How keys are written as cursors. -/
structure CursorCodec (K : Type) where
  parse : String → Except Fault K
  toCursor : K → String

namespace CursorCodec

/-- Identifiers as their display forms. -/
def uid : CursorCodec Uid where
  parse s :=
    match Uid.ofDisplay? s with
    | some u => .ok u
    | none => .error (.params (.cursor s))
  toCursor := Uid.toDisplay

/-- Words as decimal integers. -/
def decimal : CursorCodec UInt64 where
  parse s :=
    match Text.Decimal.digits? s.toList with
    | some n =>
      if n < UInt64.size then .ok (UInt64.ofNat n) else .error (.params (.decimalCursor s))
    | none => .error (.params (.decimalCursor s))
  toCursor := toString

end CursorCodec

end Chronicle
