-- SUMMARY: The tokens of a JSON text, up to the first place where there is none.
import Chronicle.Json.Number
import Chronicle.Text.Hexadecimal

/-!
# Tokens

A JSON text is read as a list of tokens. Where no token can be read the list ends with a mark, so
that a reader which fails at an earlier token is not disturbed by what is wrong further on. The
escapes of a string are only split here; whether the code units they name are characters is a
question for `Piece.chars?`, and is not asked about strings that nobody reads.
-/

namespace Chronicle.Json

/-- A part of a string: a character, or a code unit of 16 bits named by an escape. -/
inductive Piece where
  | char (c : Char)
  | unit (n : Nat)
  deriving DecidableEq

inductive Token where
  | openBrace
  | closeBrace
  | openBracket
  | closeBracket
  | colon
  | comma
  | null
  | bool (b : Bool)
  | number (n : Numeral)
  | string (ps : List Piece)
  /-- No token can be read here. -/
  | bad
  deriving DecidableEq

/-! ## Strings -/

/-- The value of four hexadecimal digits. -/
def hexUnit? (a b c d : Char) : Option Nat := do
  let a ← Text.Hexadecimal.digit? a
  let b ← Text.Hexadecimal.digit? b
  let c ← Text.Hexadecimal.digit? c
  let d ← Text.Hexadecimal.digit? d
  return ((a * 16 + b) * 16 + c) * 16 + d

/-- The character that a letter after a backslash stands for. -/
def shortEscape? : Char → Option Char
  | '"' => some '"'
  | '\\' => some '\\'
  | '/' => some '/'
  | 'b' => some '\x08'
  | 'f' => some '\x0c'
  | 'n' => some '\n'
  | 'r' => some '\r'
  | 't' => some '\t'
  | _ => none

/-- The parts of a string, from behind its opening quote, and what follows its closing quote. -/
def stringBody : List Char → Option (List Piece × List Char)
  | [] => none
  | '"' :: rest => some ([], rest)
  | '\\' :: 'u' :: a :: b :: c :: d :: rest =>
    match hexUnit? a b c d, stringBody rest with
    | some n, some (ps, rest) => some (.unit n :: ps, rest)
    | _, _ => none
  | '\\' :: e :: rest =>
    match shortEscape? e, stringBody rest with
    | some c, some (ps, rest) => some (.char c :: ps, rest)
    | _, _ => none
  | c :: rest =>
    if c.toNat < 0x20 ∨ c = '\\' then none
    else (stringBody rest).map fun (ps, rest) => (.char c :: ps, rest)

/-- The characters of a string. Two code units that form a surrogate pair are one character; a
surrogate without its partner is none. -/
def Piece.chars? : List Piece → Option (List Char)
  | [] => some []
  | .char c :: ps => (chars? ps).map (c :: ·)
  | .unit n :: ps =>
    if 0xD800 ≤ n ∧ n ≤ 0xDBFF then
      match ps with
      | .unit m :: ps =>
        if 0xDC00 ≤ m ∧ m ≤ 0xDFFF then
          (chars? ps).map (Char.ofNat (0x10000 + (n - 0xD800) * 0x400 + (m - 0xDC00)) :: ·)
        else none
      | _ => none
    else if 0xDC00 ≤ n ∧ n ≤ 0xDFFF then none
    else (chars? ps).map (Char.ofNat n :: ·)

/-- The text of a string. -/
def Piece.text? (ps : List Piece) : Option String :=
  (chars? ps).map String.ofList

/-! ## Numerals -/

/-- A run of digits and what follows it. -/
def digitRun (cs : List Char) : List Char × List Char :=
  (cs.takeWhile Char.isDigit, cs.dropWhile Char.isDigit)

/-- The digits before the point: a zero alone, or a run that does not start with one. -/
def wholePart? (cs : List Char) : Option (List Char × List Char) :=
  match digitRun cs with
  | ([], _) => none
  | (['0'], rest) => some (['0'], rest)
  | ('0' :: _, _) => none
  | (ds, rest) => some (ds, rest)

/-- The digits after a point, if there is a point. -/
def fractionPart? (cs : List Char) : Option (List Char × List Char) :=
  match cs with
  | '.' :: cs =>
    match digitRun cs with
    | ([], _) => none
    | (ds, rest) => some (ds, rest)
  | cs => some ([], cs)

/-- A sign of an exponent, if there is one. -/
def exponentSign : List Char → Bool × List Char
  | '-' :: cs => (true, cs)
  | '+' :: cs => (false, cs)
  | cs => (false, cs)

/-- The exponent, if there is one. -/
def exponentPart? (cs : List Char) : Option (Option (Bool × List Char) × List Char) :=
  match cs with
  | c :: cs' =>
    if c = 'e' ∨ c = 'E' then
      let (negative, cs') := exponentSign cs'
      match digitRun cs' with
      | ([], _) => none
      | (ds, rest) => some (some (negative, ds), rest)
    else some (none, cs)
  | [] => some (none, [])

/-- A number from behind its sign, and what follows it. -/
def numeral? (negative : Bool) (cs : List Char) : Option (Numeral × List Char) := do
  let (whole, cs) ← wholePart? cs
  let (fraction, cs) ← fractionPart? cs
  let (exponent, cs) ← exponentPart? cs
  return (⟨negative, whole, fraction, exponent⟩, cs)

/-! ## Texts -/

/-- The four characters that may stand between tokens. -/
def isSpace (c : Char) : Bool :=
  c = ' ' || c = '\n' || c = '\t' || c = '\r'

/-- The token that starts with a character, and what follows it. -/
def tokenAt? (c : Char) (cs : List Char) : Option (Token × List Char) :=
  match c, cs with
  | '\x7b', cs => some (.openBrace, cs)
  | '\x7d', cs => some (.closeBrace, cs)
  | '[', cs => some (.openBracket, cs)
  | ']', cs => some (.closeBracket, cs)
  | ':', cs => some (.colon, cs)
  | ',', cs => some (.comma, cs)
  | 'n', 'u' :: 'l' :: 'l' :: cs => some (.null, cs)
  | 't', 'r' :: 'u' :: 'e' :: cs => some (.bool true, cs)
  | 'f', 'a' :: 'l' :: 's' :: 'e' :: cs => some (.bool false, cs)
  | '"', cs => (stringBody cs).map fun (ps, rest) => (.string ps, rest)
  | '-', cs => (numeral? true cs).map fun (n, rest) => (.number n, rest)
  | c, cs =>
    if c.isDigit then (numeral? false (c :: cs)).map fun (n, rest) => (.number n, rest)
    else none

/-- The tokens of a text. Each of them takes at least one character, so there are no more of them
than characters, and the bound is the length of the text. -/
def tokensWithin : (bound : Nat) → List Char → List Token
  | 0, _ => []
  | bound + 1, cs =>
    match cs.dropWhile isSpace with
    | [] => []
    | c :: cs =>
      match tokenAt? c cs with
      | none => [.bad]
      | some (t, rest) => t :: tokensWithin bound rest

def tokens (s : String) : List Token :=
  tokensWithin (s.toList.length + 1) s.toList

end Chronicle.Json
