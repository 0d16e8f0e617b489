-- SUMMARY: The fields of an identifier as digits of its storage integer, and the order that they give.
import Chronicle.Uid.Basic

/-!
# Fields of identifiers

The storage integer is the sum of the four fields, each at its place value, and every field is
below the place above it. Two identifiers are therefore ordered by the highest field in which they
differ, and what was packed within the widths of the fields is read back unchanged.
-/

namespace Chronicle.Uid

/-! ## Reading the fields -/

theorem toNat_timestamp (u : Uid) : u.timestamp.toNat = u.raw.toNat / 0x10000000 := by
  simp [timestamp, timestampPlace]

theorem toNat_workerId (u : Uid) : u.workerId.toNat = u.raw.toNat / 0x80000 % 512 := by
  simp only [workerId, workerIdPlace, UInt64.toNat_toUInt16, UInt64.toNat_mod, UInt64.toNat_div,
    UInt64.reduceToNat]
  omega

theorem toNat_sequence (u : Uid) : u.sequence.toNat = u.raw.toNat / 0x200 % 1024 := by
  simp only [sequence, sequencePlace, UInt64.toNat_toUInt16, UInt64.toNat_mod, UInt64.toNat_div,
    UInt64.reduceToNat]
  omega

theorem toNat_random (u : Uid) : u.random.toNat = u.raw.toNat % 512 := by
  simp only [random, UInt64.toNat_toUInt16, UInt64.toNat_mod, UInt64.reduceToNat]
  omega

/-- The storage integer is the sum of the fields at their place values. -/
theorem toNat_raw (u : Uid) :
    u.raw.toNat =
      u.timestamp.toNat * 0x10000000 + u.workerId.toNat * 0x80000 + u.sequence.toNat * 0x200
        + u.random.toNat := by
  rw [toNat_timestamp, toNat_workerId, toNat_sequence, toNat_random]
  omega

/-! ## Order by fields -/

theorem lt_iff_toNat {u v : Uid} : u < v ↔ u.raw.toNat < v.raw.toNat := by
  rw [lt_iff, UInt64.lt_iff_toNat_lt]

/-- A later second makes a greater identifier, whatever the other fields are. -/
theorem lt_of_timestamp_lt {u v : Uid} (h : u.timestamp < v.timestamp) : u < v := by
  rw [UInt64.lt_iff_toNat_lt, toNat_timestamp, toNat_timestamp] at h
  rw [lt_iff_toNat]
  omega

/-- Within a second and under one worker id, a greater sequence makes a greater identifier. -/
theorem lt_of_sequence_lt {u v : Uid} (ht : u.timestamp = v.timestamp)
    (hw : u.workerId = v.workerId) (hs : u.sequence < v.sequence) : u < v := by
  rw [UInt16.lt_iff_toNat_lt] at hs
  have hu := toNat_raw u
  have hv := toNat_raw v
  have hr := toNat_random u
  rw [ht, hw] at hu
  rw [lt_iff_toNat]
  omega

/-! ## Packing -/

theorem ofRaw_eq_ok_iff {raw : UInt64} {u : Uid} : ofRaw raw = .ok u ↔ u.raw = raw := by
  rw [← ofRaw?_eq_some_iff, ofRaw]
  cases ofRaw? raw with
  | none => simp
  | some v => simp

theorem ofRaw_eq_ok {raw : UInt64} (hlo : minRaw ≤ raw) (hhi : raw ≤ maxRaw) :
    ofRaw raw = .ok ⟨raw, hlo, hhi⟩ :=
  ofRaw_eq_ok_iff.2 rfl

theorem raw_of_ofFields {t : UInt64} {w s r : UInt16} {u : Uid} (h : ofFields t w s r = .ok u) :
    u.raw = pack t w s r :=
  ofRaw_eq_ok_iff.1 h

/-- Any timestamp but zero lifts the packed integer above the smallest storage integer. -/
theorem ofFields_eq_ok {t : UInt64} {w s r : UInt16} (h0 : t ≠ 0) (ht : t ≤ maxTimestamp) :
    ∃ u, ofFields t w s r = .ok u := by
  have hp := toNat_pack t w s r
  have h0' : t.toNat ≠ 0 := fun h => h0 (UInt64.toNat_inj.1 h)
  rw [UInt64.le_iff_toNat_le] at ht
  simp only [maxTimestamp, UInt64.reduceToNat] at ht
  have hlo : minRaw ≤ pack t w s r := by
    rw [UInt64.le_iff_toNat_le, hp]
    simp only [minRaw, UInt64.reduceToNat]
    omega
  have hhi : pack t w s r ≤ maxRaw := by
    rw [UInt64.le_iff_toNat_le, hp]
    simp only [maxRaw, UInt64.reduceToNat]
    omega
  exact ⟨_, ofRaw_eq_ok hlo hhi⟩

section

variable {t : UInt64} {w s r : UInt16} {u : Uid} (h : ofFields t w s r = .ok u)

include h

theorem timestamp_of_ofFields (ht : t ≤ maxTimestamp) : u.timestamp = t := by
  rw [UInt64.le_iff_toNat_le] at ht
  simp only [maxTimestamp, UInt64.reduceToNat] at ht
  apply UInt64.toNat_inj.1
  rw [toNat_timestamp, raw_of_ofFields h, toNat_pack]
  omega

theorem workerId_of_ofFields (hw : w ≤ maxWorkerId) : u.workerId = w := by
  rw [UInt16.le_iff_toNat_le] at hw
  simp only [maxWorkerId, UInt16.reduceToNat] at hw
  apply UInt16.toNat_inj.1
  rw [toNat_workerId, raw_of_ofFields h, toNat_pack]
  omega

theorem sequence_of_ofFields (hs : s ≤ maxSequence) : u.sequence = s := by
  rw [UInt16.le_iff_toNat_le] at hs
  simp only [maxSequence, UInt16.reduceToNat] at hs
  apply UInt16.toNat_inj.1
  rw [toNat_sequence, raw_of_ofFields h, toNat_pack]
  omega

theorem random_of_ofFields (hr : r ≤ maxRandom) : u.random = r := by
  rw [UInt16.le_iff_toNat_le] at hr
  simp only [maxRandom, UInt16.reduceToNat] at hr
  apply UInt16.toNat_inj.1
  rw [toNat_random, raw_of_ofFields h, toNat_pack]
  omega

end

end Chronicle.Uid
