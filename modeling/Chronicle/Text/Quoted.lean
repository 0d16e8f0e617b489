-- SUMMARY: Texts written between double quotes, with everything unprintable escaped.
import Chronicle.Text.Unprintable

/-!
# Quoted texts

The form in which a message shows a text it was given. Quotes, backslashes and the four control
characters with a letter of their own get a backslash; any other unprintable character is written
as its code point in hexadecimal, in lower case and without leading zeros. A single quote stays.
-/

namespace Chronicle.Text

/-- The code point in hexadecimal digits between braces. -/
def escapeCodePoint (c : Char) : List Char :=
  ['\\', 'u', '\x7b'] ++ Nat.toDigits 16 c.toNat ++ ['\x7d']

/-- One character of a quoted text. -/
def escapeQuoted (c : Char) : List Char :=
  match c with
  | '"' => ['\\', '"']
  | '\\' => ['\\', '\\']
  | '\n' => ['\\', 'n']
  | '\r' => ['\\', 'r']
  | '\t' => ['\\', 't']
  | '\x00' => ['\\', '0']
  | c => if isUnprintable c then escapeCodePoint c else [c]

/-- The text between double quotes. -/
def quoted (s : String) : String :=
  String.ofList ('"' :: s.toList.flatMap escapeQuoted ++ ['"'])

end Chronicle.Text
