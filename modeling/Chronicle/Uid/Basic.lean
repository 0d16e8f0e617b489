-- SUMMARY: Identifiers: the storage integer, its four fields, packing and order.
import Chronicle.Fault

/-!
# Identifiers

An identifier is a storage integer of 63 bits that holds four fields, from the highest to the
lowest: the second at which it was issued (35 bits, counted from `Uid.epoch`), the worker id of its
generator (9 bits), a sequence within the second (10 bits) and a random part (9 bits). The integers
below `2 ^ 18` are left out, since their display form would be too short, so the range is part of
the type. Identifiers are ordered as their storage integers.
-/

namespace Chronicle

namespace Uid

/-- The smallest storage integer. -/
def minRaw : UInt64 := 0x40000

/-- The largest storage integer. -/
def maxRaw : UInt64 := 0x7FFFFFFFFFFFFFFF

/-- Second zero of the timestamp field in seconds of Unix time: 1 March 2018, midnight UTC. -/
def epoch : Nat := 1519862400

/-! ## The layout -/

def timestampBits : Nat := 35
def workerIdBits : Nat := 9
def sequenceBits : Nat := 10
def randomBits : Nat := 9

def maxTimestamp : UInt64 := 0x7FFFFFFFF
def maxWorkerId : UInt16 := 511
def maxSequence : UInt16 := 1023
def maxRandom : UInt16 := 511

/-- Number of worker ids; a count of leases is reduced modulo it. -/
def workerIdBound : UInt64 := 512

/-- Place value of the timestamp field. -/
def timestampPlace : UInt64 := 0x10000000

/-- Place value of the worker id field. -/
def workerIdPlace : UInt64 := 0x80000

/-- Place value of the sequence field. -/
def sequencePlace : UInt64 := 0x200

end Uid

/-- An identifier: a storage integer from `Uid.minRaw` to `Uid.maxRaw`. -/
structure Uid where
  raw : UInt64
  minRaw_le : Uid.minRaw ≤ raw
  le_maxRaw : raw ≤ Uid.maxRaw
  deriving DecidableEq

namespace Uid

@[ext] theorem ext {u v : Uid} (h : u.raw = v.raw) : u = v := by
  cases u; cases v; cases h; rfl

/-- A storage integer has at least 19 bits. -/
theorem le_toNat_raw (u : Uid) : 0x40000 ≤ u.raw.toNat :=
  UInt64.le_iff_toNat_le.1 u.minRaw_le

/-- A storage integer has at most 63 bits. -/
theorem toNat_raw_lt (u : Uid) : u.raw.toNat < 0x8000000000000000 :=
  Nat.lt_succ_of_le (UInt64.le_iff_toNat_le.1 u.le_maxRaw)

/-! ## Storage integers -/

/-- The identifier of a storage integer. -/
def ofRaw? (raw : UInt64) : Option Uid :=
  if h : minRaw ≤ raw ∧ raw ≤ maxRaw then some ⟨raw, h.1, h.2⟩ else none

/-- The identifier of a storage integer; an integer out of range is refused by its decimal text. -/
def ofRaw (raw : UInt64) : Except Fault Uid :=
  match ofRaw? raw with
  | some u => .ok u
  | none => .error (.invalidIdentifier (toString raw))

/-- The identifier of a signed column value. -/
def ofInt64 (raw : Int64) : Except Fault Uid :=
  if raw < 0 then .error (.invalidIdentifier (toString raw)) else ofRaw raw.toUInt64

/-- The storage integer as a signed column value. The top bit is never set. -/
def toInt64 (u : Uid) : Int64 :=
  u.raw.toInt64

@[simp] theorem ofRaw?_raw (u : Uid) : ofRaw? u.raw = some u := by
  simp [ofRaw?, u.minRaw_le, u.le_maxRaw]

theorem ofRaw?_eq_some_iff {raw : UInt64} {u : Uid} : ofRaw? raw = some u ↔ u.raw = raw := by
  refine ⟨fun h => ?_, fun h => h ▸ ofRaw?_raw u⟩
  unfold ofRaw? at h
  split at h
  · exact Option.some.inj h ▸ rfl
  · exact nomatch h

@[simp] theorem ofRaw_raw (u : Uid) : ofRaw u.raw = .ok u := by
  simp [ofRaw]

/-! ## Fields -/

/-- Seconds since the epoch at which the identifier was issued. -/
def timestamp (u : Uid) : UInt64 :=
  u.raw / timestampPlace

def workerId (u : Uid) : UInt16 :=
  (u.raw / workerIdPlace % 512).toUInt16

def sequence (u : Uid) : UInt16 :=
  (u.raw / sequencePlace % 1024).toUInt16

def random (u : Uid) : UInt16 :=
  (u.raw % 512).toUInt16

/-- The storage integer of four fields, each cut to its width. -/
def pack (timestamp : UInt64) (workerId sequence random : UInt16) : UInt64 :=
  timestamp % 0x800000000 * timestampPlace
    + workerId.toUInt64 % 512 * workerIdPlace
    + sequence.toUInt64 % 1024 * sequencePlace
    + random.toUInt64 % 512

/-- The identifier of four fields, each cut to its width. -/
def ofFields (timestamp : UInt64) (workerId sequence random : UInt16) : Except Fault Uid :=
  ofRaw (pack timestamp workerId sequence random)

/-- Unix time, in seconds, at which the identifier was issued. -/
def createdUnix (u : Uid) : Nat :=
  epoch + u.timestamp.toNat

/-- The fields stand side by side in the packed integer and do not touch. -/
theorem toNat_pack (t : UInt64) (w s r : UInt16) :
    (pack t w s r).toNat =
      t.toNat % 0x800000000 * 0x10000000 + w.toNat % 512 * 0x80000 + s.toNat % 1024 * 0x200
        + r.toNat % 512 := by
  simp only [pack, timestampPlace, workerIdPlace, sequencePlace, UInt64.toNat_add,
    UInt64.toNat_mul, UInt64.toNat_mod, UInt16.toNat_toUInt64, UInt64.reduceToNat]
  omega

/-! ## Order -/

instance : LT Uid := ⟨fun u v => u.raw < v.raw⟩
instance : LE Uid := ⟨fun u v => u.raw ≤ v.raw⟩
instance : Ord Uid := ⟨fun u v => compare u.raw v.raw⟩

instance (u v : Uid) : Decidable (u < v) := inferInstanceAs (Decidable (u.raw < v.raw))
instance (u v : Uid) : Decidable (u ≤ v) := inferInstanceAs (Decidable (u.raw ≤ v.raw))

theorem lt_iff {u v : Uid} : u < v ↔ u.raw < v.raw := Iff.rfl

theorem compare_eq_lt_iff {u v : Uid} : compare u v = .lt ↔ u < v :=
  (Std.compare_eq_lt : compare u.raw v.raw = .lt ↔ u.raw < v.raw)

instance : Std.TransOrd Uid where
  eq_swap {u v} := (Std.OrientedCmp.eq_swap : compare u.raw v.raw = (compare v.raw u.raw).swap)
  isLE_trans {u v w} h k :=
    (Std.TransCmp.isLE_trans (h : (compare u.raw v.raw).isLE) k : (compare u.raw w.raw).isLE)

instance : Std.LawfulEqOrd Uid where
  compare_self {u} := (Std.ReflCmp.compare_self : compare u.raw u.raw = .eq)
  eq_of_compare {u v} (h : compare u.raw v.raw = .eq) :=
    Uid.ext (Std.LawfulEqCmp.eq_of_compare h)

end Uid

end Chronicle
