-- SUMMARY: JSON values: reading one from tokens, and writing one without blanks.
import Chronicle.Json.Token

/-!
# Values

A value is read in two steps. `Tree.run` builds the tree that the brackets, commas and colons of the
text describe; it is a machine with a stack of unfinished arrays and objects and takes one token a
step. `Value.ofTree?` then asks what the tree means: whether its strings are texts, its numbers are
in range, and it is not nested too deeply.
-/

namespace Chronicle.Json

/-! ## Trees -/

/-- A value as it is written. -/
inductive Tree where
  | null
  | bool (b : Bool)
  | number (n : Numeral)
  | string (ps : List Piece)
  | array (items : List Tree)
  | object (members : List (List Piece × Tree))

namespace Tree

/-- An array or object of which the end has not been read. What has been read is held from the last
to the first. -/
inductive Frame where
  | array (items : List Tree)
  | object (members : List (List Piece × Tree)) (key : List Piece)

/-- What the next token may be. -/
inductive Expected where
  /-- A value. -/
  | value
  /-- The first item of an array, or its end. -/
  | firstItem
  /-- The first key of an object with the given members, or its end. -/
  | firstKey
  /-- A key of an object with the given members. -/
  | key (members : List (List Piece × Tree))
  /-- The colon behind a key. -/
  | colon (members : List (List Piece × Tree)) (key : List Piece)
  /-- A comma, or the end of the innermost array or object. -/
  | more

/-- Where the machine stands after a token. -/
inductive Progress where
  | failed
  | finished (t : Tree)
  | going (expected : Expected) (stack : List Frame)

/-- A value has been read in full. -/
def close (t : Tree) : List Frame → Progress
  | [] => .finished t
  | .array items :: stack => .going .more (.array (t :: items) :: stack)
  | .object members key :: stack => .going .more (.object ((key, t) :: members) key :: stack)

/-- A token at which a value starts. -/
def startValue (stack : List Frame) : Token → Progress
  | .null => close .null stack
  | .bool b => close (.bool b) stack
  | .number n => close (.number n) stack
  | .string ps => close (.string ps) stack
  | .openBracket => .going .firstItem (.array [] :: stack)
  | .openBrace => .going .firstKey stack
  | _ => .failed

/-- One token. -/
def step (expected : Expected) (stack : List Frame) (t : Token) : Progress :=
  match expected, t, stack with
  | .value, t, stack => startValue stack t
  | .firstItem, .closeBracket, .array _ :: stack => close (.array []) stack
  | .firstItem, t, stack => startValue stack t
  | .firstKey, .closeBrace, stack => close (.object []) stack
  | .firstKey, .string ps, stack => .going (.colon [] ps) stack
  | .key members, .string ps, stack => .going (.colon members ps) stack
  | .colon members key, .colon, stack => .going .value (.object members key :: stack)
  | .more, .comma, .array items :: stack => .going .value (.array items :: stack)
  | .more, .comma, .object members _ :: stack => .going (.key members) stack
  | .more, .closeBracket, .array items :: stack => close (.array items.reverse) stack
  | .more, .closeBrace, .object members _ :: stack => close (.object members.reverse) stack
  | _, _, _ => .failed

/-- The first value of a list of tokens, and the tokens behind it. -/
def run (expected : Expected) (stack : List Frame) : List Token → Option (Tree × List Token)
  | [] => none
  | t :: ts =>
    match step expected stack t with
    | .failed => none
    | .finished tree => some (tree, ts)
    | .going expected stack => run expected stack ts

/-- The value with which a list of tokens starts, and the tokens behind it. -/
def ofTokens? (ts : List Token) : Option (Tree × List Token) :=
  run .value [] ts

/-- The value that a list of tokens is. -/
def ofAllTokens? (ts : List Token) : Option Tree :=
  match ofTokens? ts with
  | some (tree, []) => some tree
  | _ => none

theorem length_lt_of_run {expected : Expected} {stack : List Frame} {ts rest : List Token}
    {t : Tree} (h : run expected stack ts = some (t, rest)) : rest.length < ts.length := by
  induction ts generalizing expected stack with
  | nil => exact nomatch h
  | cons _ ts ih =>
    rw [run] at h
    split at h
    · exact nomatch h
    · cases h; exact Nat.lt_succ_self _
    · exact Nat.lt_succ_of_lt (ih h)

theorem length_lt_of_ofTokens? {ts rest : List Token} {t : Tree}
    (h : ofTokens? ts = some (t, rest)) : rest.length < ts.length :=
  length_lt_of_run h

end Tree

/-! ## Values -/

/-- A JSON value. The members of an object are in the order of the text. -/
inductive Value where
  | null
  | bool (b : Bool)
  /-- An integer from zero up. -/
  | natural (n : UInt64)
  /-- An integer below zero. -/
  | negative (n : Int64)
  /-- Any other number, as it is written. -/
  | float (n : Numeral)
  | string (s : String)
  | array (items : List Value)
  | object (members : List (String × Value))

/-- The number that a numeral stands for. -/
def Value.ofNumeral? (n : Numeral) : Option Value :=
  let value := Numeral.digitsValue n.whole
  if n.isInteger ∧ ¬ n.negative ∧ value < UInt64.size then some (.natural (UInt64.ofNat value))
  else if n.isInteger ∧ n.negative ∧ 0 < value ∧ value ≤ 0x8000000000000000 then
    some (.negative (Int64.ofInt (-value)))
  else if n.isFinite then some (.float n)
  else none

/-- Arrays and objects may lie one in another this many times. -/
def Value.maxDepth : Nat := 127

mutual

/-- The value of a tree, with so many levels of nesting to go. -/
def Value.ofTree? (depth : Nat) : Tree → Option Value
  | .null => some .null
  | .bool b => some (.bool b)
  | .number n => Value.ofNumeral? n
  | .string ps => (Piece.text? ps).map .string
  | .array items => if depth = 0 then none else (Value.ofItems? (depth - 1) items).map .array
  | .object members =>
    if depth = 0 then none else (Value.ofMembers? (depth - 1) members).map .object

def Value.ofItems? (depth : Nat) : List Tree → Option (List Value)
  | [] => some []
  | t :: ts =>
    match Value.ofTree? depth t, Value.ofItems? depth ts with
    | some v, some vs => some (v :: vs)
    | _, _ => none

def Value.ofMembers? (depth : Nat) : List (List Piece × Tree) → Option (List (String × Value))
  | [] => some []
  | (key, t) :: ts =>
    match Piece.text? key, Value.ofTree? depth t, Value.ofMembers? depth ts with
    | some key, some v, some vs => some ((key, v) :: vs)
    | _, _, _ => none

end

/-- The value of a JSON text. -/
def Value.parse? (s : String) : Option Value :=
  (Tree.ofAllTokens? (tokens s)).bind (Value.ofTree? Value.maxDepth)

/-- The member of this name; of several, the last. -/
def Value.member? (members : List (String × Value)) (name : String) : Option Value :=
  (members.reverse.find? (·.1 = name)).map Prod.snd

/-! ## Writing -/

/-- A character of a string. Quotes, backslashes and control characters are escaped. -/
def escapeChar (c : Char) : List Char :=
  match c with
  | '"' => ['\\', '"']
  | '\\' => ['\\', '\\']
  | '\x08' => ['\\', 'b']
  | '\x0c' => ['\\', 'f']
  | '\n' => ['\\', 'n']
  | '\r' => ['\\', 'r']
  | '\t' => ['\\', 't']
  | c =>
    if c.toNat < 0x20 then
      ['\\', 'u', '0', '0', Text.Hexadecimal.digit (c.toNat / 16), Text.Hexadecimal.digit c.toNat]
    else [c]

def stringChars (s : String) : List Char :=
  '"' :: s.toList.flatMap escapeChar ++ ['"']

mutual

/-- The shortest text of a value. -/
def Value.chars : Value → List Char
  | .null => "null".toList
  | .bool b => if b then "true".toList else "false".toList
  | .natural n => (toString n).toList
  | .negative n => (toString n).toList
  | .float n => n.toChars
  | .string s => stringChars s
  | .array items => '[' :: Value.itemChars items ++ [']']
  | .object members => '\x7b' :: Value.memberChars members ++ ['\x7d']

def Value.itemChars : List Value → List Char
  | [] => []
  | [v] => v.chars
  | v :: w :: vs => v.chars ++ ',' :: Value.itemChars (w :: vs)

def Value.memberChars : List (String × Value) → List Char
  | [] => []
  | [(key, v)] => stringChars key ++ ':' :: v.chars
  | (key, v) :: w :: vs =>
    stringChars key ++ ':' :: v.chars ++ ',' :: Value.memberChars (w :: vs)

end

def Value.print (v : Value) : String :=
  String.ofList v.chars

/-- An integer of either sign. -/
def Value.ofInt64 (n : Int64) : Value :=
  if n < 0 then .negative n else .natural n.toUInt64

end Chronicle.Json
