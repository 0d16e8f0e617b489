-- SUMMARY: Records of scalar fields, read from a JSON text token by token, and what is wrong with a text that holds none.
import Chronicle.Fault
import Chronicle.Json.Value

/-!
# Flat records

A record is an object with the fields as members, in any order and among members of other names, or
an array of the fields in their order. It is read from the front, and the first thing that is wrong
decides the failure: a text that is no JSON is `malformed`, a value of the wrong kind and a missing
or repeated field are a `mismatch`. A value that is skipped may hold anything that JSON brackets
allow.
-/

namespace Chronicle.Json

/-- The form in which an identifier is written. -/
inductive Form where
  | display
  | storage
  deriving DecidableEq

/-- Why a text is not what it should be. -/
inductive Failure where
  /-- The text is no JSON. -/
  | malformed
  /-- The value has the wrong shape. -/
  | mismatch
  /-- A value that should be an identifier is of no kind that could be one. -/
  | noIdentifier (form : Form)
  /-- An identifier is refused. -/
  | refused (f : Fault)
  deriving DecidableEq

/-- What is said about a failure that concerns an identifier. -/
def Failure.message? : Failure → Option String
  | .malformed | .mismatch => none
  | .noIdentifier .display => some "expected a uid display string"
  | .noIdentifier .storage => some "expected a uid storage integer"
  | .refused f => some f.message

/-! ## Scalars -/

/-- The kind of a field. -/
inductive Kind where
  | text
  /-- A text, null, or no member at all. -/
  | optionalText
  /-- A signed integer of 64 bits. -/
  | int64
  /-- An unsigned integer of 32 bits. -/
  | word32
  | flag
  deriving DecidableEq

/-- The value of a field. -/
inductive Scalar where
  | absent
  | text (s : String)
  | int (n : Int)
  | flag (b : Bool)
  deriving DecidableEq

def Scalar.text? : Scalar → Option String
  | .text s => some s
  | _ => none

/-- The failure at a token at which no field of the right kind starts. A scalar is looked at in
full first. -/
def wrongKind : Token → Failure
  | .null | .bool _ | .openBracket | .openBrace => .mismatch
  | .number n => if (Value.ofNumeral? n).isSome then .mismatch else .malformed
  | .string ps => if (Piece.text? ps).isSome then .mismatch else .malformed
  | _ => .malformed

/-- A string as a text. -/
def textOf (ps : List Piece) : Except Failure Scalar :=
  match Piece.text? ps with
  | some s => .ok (.text s)
  | none => .error .malformed

/-- A numeral as an integer from `low` up to and without `high`. -/
def intOf (low high : Int) (n : Numeral) : Except Failure Scalar :=
  let within (i : Int) : Except Failure Scalar :=
    if low ≤ i ∧ i < high then .ok (.int i) else .error .mismatch
  match Value.ofNumeral? n with
  | some (.natural w) => within w.toNat
  | some (.negative w) => within w.toInt
  | some _ => .error .mismatch
  | none => .error .malformed

/-- The field of a kind that a token is. -/
def Kind.ofToken (kind : Kind) (t : Token) : Except Failure Scalar :=
  match kind, t with
  | .text, .string ps => textOf ps
  | .optionalText, .string ps => textOf ps
  | .optionalText, .null => .ok .absent
  | .int64, .number n => intOf (-0x8000000000000000) 0x8000000000000000 n
  | .word32, .number n => intOf 0 0x100000000 n
  | .flag, .bool b => .ok (.flag b)
  | _, t => .error (wrongKind t)

/-- The field with which a list of tokens starts, and the tokens behind it. -/
def Kind.read (kind : Kind) : List Token → Except Failure (Scalar × List Token)
  | [] => .error .malformed
  | t :: ts => (kind.ofToken t).map (·, ts)

theorem Kind.length_lt_of_read {kind : Kind} {ts rest : List Token} {v : Scalar}
    (h : kind.read ts = .ok (v, rest)) : rest.length < ts.length := by
  cases ts with
  | nil => exact nomatch h
  | cons t ts =>
    simp only [Kind.read] at h
    cases hv : kind.ofToken t with
    | error => rw [hv] at h; exact nomatch h
    | ok w => rw [hv] at h; cases h; exact Nat.lt_succ_self _

/-! ## Records -/

/-- The names of fields and their kinds, in their order. -/
abbrev Layout := List (String × Kind)

/-- Fields as they are found. -/
abbrev Found := List (String × Scalar)

/-- The fields that follow the opening bracket of an array, and the tokens behind the array. -/
def readItems (first : Bool) : Layout → List Token → Except Failure (List Scalar × List Token)
  | [], .closeBracket :: ts => .ok ([], ts)
  | [], _ => .error .malformed
  | _ :: _, [] => .error .malformed
  | _ :: _, .closeBracket :: _ => .error .mismatch
  | (_, kind) :: fields, t :: ts =>
    let item : Except Failure (List Token) :=
      if first then .ok (t :: ts)
      else match t, ts with
        | .comma, .closeBracket :: _ => .error .malformed
        | .comma, ts => .ok ts
        | _, _ => .error .malformed
    match item with
    | .error e => .error e
    | .ok ts =>
      match kind.read ts with
      | .error e => .error e
      | .ok (v, ts) => (readItems false fields ts).map fun (vs, ts) => (v :: vs, ts)

/-- The fields of an object from what was found in it. A text that may be missing is then absent. -/
def complete (layout : Layout) (found : Found) : Except Failure (List Scalar) :=
  layout.mapM fun (name, kind) =>
    match found.lookup name with
    | some v => .ok v
    | none => if kind = .optionalText then .ok .absent else .error .mismatch

/-- The member of an object that starts with a key, and the tokens behind it. A field may be found
only once; a member of another name is skipped. -/
def readMember (layout : Layout) (found : Found) (key : List Piece) (ts : List Token) :
    Except Failure (Found × { rest : List Token // rest.length < ts.length }) :=
  match Piece.text? key with
  | none => .error .malformed
  | some name =>
    match layout.lookup name with
    | none =>
      match ts with
      | .colon :: ts =>
        match h : Tree.ofTokens? ts with
        | none => .error .malformed
        | some (_, rest) =>
          .ok (found, ⟨rest, Nat.lt_succ_of_lt (Tree.length_lt_of_ofTokens? h)⟩)
      | _ => .error .malformed
    | some kind =>
      if (found.lookup name).isSome then .error .mismatch
      else match ts with
        | .colon :: ts =>
          match h : kind.read ts with
          | .error e => .error e
          | .ok (v, rest) =>
            .ok ((name, v) :: found, ⟨rest, Nat.lt_succ_of_lt (Kind.length_lt_of_read h)⟩)
        | _ => .error .malformed

/-- The fields that follow the opening brace of an object, and the tokens behind the object. -/
def readMembers (layout : Layout) (first : Bool) (found : Found) (ts : List Token) :
    Except Failure (List Scalar × List Token) :=
  match ts with
  | .closeBrace :: rest => (complete layout found).map (·, rest)
  | .string key :: rest =>
    if first then
      match readMember layout found key rest with
      | .error e => .error e
      | .ok (found, ⟨rest, _⟩) => readMembers layout false found rest
    else .error .malformed
  | .comma :: .string key :: rest =>
    if first then .error .malformed
    else match readMember layout found key rest with
      | .error e => .error e
      | .ok (found, ⟨rest, _⟩) => readMembers layout false found rest
  | _ => .error .malformed
termination_by ts.length
decreasing_by all_goals simp only [List.length_cons]; omega

/-- The fields of the record that a list of tokens is. -/
def readRecord (layout : Layout) (ts : List Token) : Except Failure (List Scalar) :=
  let record :=
    match ts with
    | .openBracket :: ts => readItems true layout ts
    | .openBrace :: ts => readMembers layout true [] ts
    | t :: _ => .error (wrongKind t)
    | [] => .error .malformed
  match record with
  | .error e => .error e
  | .ok (fields, []) => .ok fields
  | .ok (_, _ :: _) => .error .malformed

end Chronicle.Json
