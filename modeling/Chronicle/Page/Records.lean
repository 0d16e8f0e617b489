-- SUMMARY: Encoded records in a tree, keyed by identifier, and scans of them.
import Chronicle.Page.Basic
import Chronicle.Store.Database

/-!
# Stored records

A record is stored under the big-endian storage integer of its identifier, so the order of the tree
is the order of identifiers. The tree may also hold bytes that nobody here has written. A scan
decodes the records it passes, and the keys of those that pass the filter; the first it cannot
decode fails the scan, unless the limit is reached before.
-/

namespace Chronicle

/-- How records are written as bytes. Of bytes that are no record it says what is wrong with them. -/
structure RecordCodec (V : Type) where
  encode : V → Bytes
  decode : Bytes → Except String V

/-- The key of an identifier. -/
def Uid.toKey (u : Uid) : Bytes :=
  Bytes.ofWord u.raw

/-- The identifier of a key. -/
def Uid.ofKey? (key : Bytes) : Option Uid :=
  (Bytes.toWord? key).bind Uid.ofRaw?

@[simp] theorem Uid.ofKey?_toKey (u : Uid) : Uid.ofKey? u.toKey = some u := by
  simp [ofKey?, toKey]

/-- A tree of records in some encoding. -/
structure RecordStore (V : Type) where
  codec : RecordCodec V
  tree : Tree

namespace RecordStore

variable {V : Type}

def insert (r : RecordStore V) (u : Uid) (v : V) : RecordStore V :=
  { r with tree := r.tree.insert u.toKey (r.codec.encode v) }

def get? (r : RecordStore V) (u : Uid) : Except Fault (Option V) :=
  match r.tree.get? u.toKey with
  | none => .ok none
  | some bytes =>
    match r.codec.decode bytes with
    | .ok v => .ok (some v)
    | .error detail => .error (.internal (.recordBytes detail))

def size (r : RecordStore V) : Nat :=
  r.tree.size

def isEmpty (r : RecordStore V) : Bool :=
  r.tree.isEmpty

/-- At most `limit` rows that pass the filter, from entries in the order of the scan. -/
def collect (codec : RecordCodec V) (filter : V → Bool) :
    (limit : Nat) → List (Bytes × Bytes) → Except Fault (List (Uid × V))
  | 0, _ => .ok []
  | _ + 1, [] => .ok []
  | limit + 1, (key, bytes) :: rest =>
    match codec.decode bytes with
    | .error detail => .error (.internal (.recordBytes detail))
    | .ok v =>
      if filter v then
        match Uid.ofKey? key with
        | none => .error (.internal (.recordKey key))
        | some u => (collect codec filter limit rest).map ((u, v) :: ·)
      else collect codec filter (limit + 1) rest

/-- The first rows beyond an identifier that pass the filter. -/
def scan (r : RecordStore V) (filter : V → Bool) (s : Scan Uid) :
    Except Fault (List (Uid × V)) :=
  collect r.codec filter s.limit (r.tree.beyond (s.startAfter.map Uid.toKey) s.direction)

/-- A scan as a source of pages. -/
def source (r : RecordStore V) (filter : V → Bool) (s : Scan Uid) :
    ExceptT Fault Id (List (Uid × V)) :=
  ExceptT.mk (m := Id) (r.scan filter s)

end RecordStore

end Chronicle
