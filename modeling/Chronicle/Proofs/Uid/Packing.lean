-- SUMMARY: Packing four fields and reading them back: bit by bit, without loss, and in the order of the fields.
import Chronicle.Proofs.Uid.Forms
import Mathlib.Data.Prod.Lex

/-!
# Packing

The arithmetic on place values is that of masks and shifts: a field cut to its width leaves the
bits of every other field at zero, so that joining the fields bit by bit adds them. Packing takes
each field modulo its width, nothing is lost by unpacking and packing again, and identifiers are
ordered as the tuples of their fields.
-/

namespace Chronicle.Uid

/-! ## Bits -/

/-- The four fields, each masked to its width and moved to its place, joined bit by bit. -/
def joinFields (timestamp : UInt64) (workerId sequence random : UInt16) : UInt64 :=
  (timestamp &&& 0x7FFFFFFFF) <<< 28 ||| (workerId.toUInt64 &&& 0x1FF) <<< 19
    ||| (sequence.toUInt64 &&& 0x3FF) <<< 9 ||| (random.toUInt64 &&& 0x1FF)

/-- Bits that lie below all those of the other number are added to it. -/
theorem or_eq_add_of_lt {a b k : Nat} (ha : 2 ^ k ∣ a) (hb : b < 2 ^ k) : a ||| b = a + b := by
  obtain ⟨n, rfl⟩ := ha
  exact (Nat.two_pow_add_eq_or_of_lt hb n).symm

/-- A mask of the lowest bits takes the remainder. -/
theorem toNat_and_mask {x mask : UInt64} (width : Nat) (hmask : mask.toNat = 2 ^ width - 1) :
    (x &&& mask).toNat = x.toNat % 2 ^ width := by
  rw [UInt64.toNat_and, hmask, Nat.and_two_pow_sub_one_eq_mod]

/-- A field that fits above its place is moved there without losing a bit. -/
theorem toNat_mask_shiftLeft {x mask shift : UInt64} (width place : Nat)
    (hmask : mask.toNat = 2 ^ width - 1) (hshift : shift.toNat % 64 = place)
    (hfits : width + place ≤ 64) :
    ((x &&& mask) <<< shift).toNat = x.toNat % 2 ^ width * 2 ^ place := by
  have hlt : x.toNat % 2 ^ width * 2 ^ place < 2 ^ 64 :=
    calc x.toNat % 2 ^ width * 2 ^ place
      _ < 2 ^ width * 2 ^ place :=
        Nat.mul_lt_mul_of_pos_right (Nat.mod_lt _ (Nat.two_pow_pos _)) (Nat.two_pow_pos _)
      _ = 2 ^ (width + place) := (Nat.pow_add 2 width place).symm
      _ ≤ 2 ^ 64 := Nat.pow_le_pow_right (by decide) hfits
  rw [UInt64.toNat_shiftLeft, hshift, toNat_and_mask width hmask, Nat.shiftLeft_eq, Nat.mod_eq_of_lt hlt]

/-- A field is read by moving it down and masking it. -/
theorem toNat_shiftRight_mask {x mask shift : UInt64} (width place : Nat)
    (hmask : mask.toNat = 2 ^ width - 1) (hshift : shift.toNat % 64 = place) :
    ((x >>> shift) &&& mask).toNat = x.toNat / 2 ^ place % 2 ^ width := by
  rw [toNat_and_mask width hmask, UInt64.toNat_shiftRight, hshift, Nat.shiftRight_eq_div_pow]

/-- A field of at most 16 bits loses nothing in a short word. -/
theorem eq_toUInt16_shiftRight_mask {x mask shift : UInt64} {field : UInt16} (width place : Nat)
    (hmask : mask.toNat = 2 ^ width - 1) (hshift : shift.toNat % 64 = place) (hfits : width ≤ 16)
    (hfield : field.toNat = x.toNat / 2 ^ place % 2 ^ width) :
    field = ((x >>> shift) &&& mask).toUInt16 := by
  have hlt : x.toNat / 2 ^ place % 2 ^ width < 2 ^ 16 :=
    Nat.lt_of_lt_of_le (Nat.mod_lt _ (Nat.two_pow_pos _)) (Nat.pow_le_pow_right (by decide) hfits)
  apply UInt16.toNat_inj.1
  rw [UInt64.toNat_toUInt16, toNat_shiftRight_mask width place hmask hshift, hfield]
  exact (Nat.mod_eq_of_lt hlt).symm

/-- Fields joined bit by bit are packed. -/
theorem joinFields_eq_pack (t : UInt64) (w s r : UInt16) : joinFields t w s r = pack t w s r := by
  have ht : ((t &&& 0x7FFFFFFFF) <<< 28).toNat = t.toNat % 2 ^ 35 * 2 ^ 28 :=
    toNat_mask_shiftLeft 35 28 rfl rfl (by decide)
  have hw : ((w.toUInt64 &&& 0x1FF) <<< 19).toNat = w.toNat % 2 ^ 9 * 2 ^ 19 :=
    toNat_mask_shiftLeft 9 19 rfl rfl (by decide)
  have hs : ((s.toUInt64 &&& 0x3FF) <<< 9).toNat = s.toNat % 2 ^ 10 * 2 ^ 9 :=
    toNat_mask_shiftLeft 10 9 rfl rfl (by decide)
  have hr : (r.toUInt64 &&& 0x1FF).toNat = r.toNat % 2 ^ 9 := toNat_and_mask 9 rfl
  apply UInt64.toNat_inj.1
  unfold joinFields
  simp only [UInt64.toNat_or, ht, hw, hs, hr]
  -- each field lies below the place of the one before it
  rw [or_eq_add_of_lt (a := t.toNat % 2 ^ 35 * 2 ^ 28) (k := 28) (by omega) (by omega),
    or_eq_add_of_lt (b := s.toNat % 2 ^ 10 * 2 ^ 9) (k := 19) (by omega) (by omega),
    or_eq_add_of_lt (k := 9) (by omega) (by omega), toNat_pack]
  simp only [Nat.reducePow]

/-! ## The tuple of the fields -/

/-- The fields from the highest to the lowest, compared in this order. -/
def fields (u : Uid) : UInt64 ×ₗ UInt16 ×ₗ UInt16 ×ₗ UInt16 :=
  toLex (u.timestamp, toLex (u.workerId, toLex (u.sequence, u.random)))

/-- The fields cut out of a storage integer, each moved down from its place and masked. -/
def splitFields (raw : UInt64) : UInt64 ×ₗ UInt16 ×ₗ UInt16 ×ₗ UInt16 :=
  toLex ((raw >>> 28) &&& 0x7FFFFFFFF, toLex (((raw >>> 19) &&& 0x1FF).toUInt16,
    toLex (((raw >>> 9) &&& 0x3FF).toUInt16, ((raw >>> 0) &&& 0x1FF).toUInt16)))

theorem fields_eq_splitFields (u : Uid) : u.fields = splitFields u.raw := by
  have hmax := u.toNat_raw_lt
  have ht : u.timestamp = (u.raw >>> 28) &&& 0x7FFFFFFFF := by
    apply UInt64.toNat_inj.1
    rw [toNat_timestamp, toNat_shiftRight_mask 35 28 rfl rfl]
    omega
  have hw : u.workerId = ((u.raw >>> 19) &&& 0x1FF).toUInt16 :=
    eq_toUInt16_shiftRight_mask 9 19 rfl rfl (by decide) u.toNat_workerId
  have hs : u.sequence = ((u.raw >>> 9) &&& 0x3FF).toUInt16 :=
    eq_toUInt16_shiftRight_mask 10 9 rfl rfl (by decide) u.toNat_sequence
  have hr : u.random = ((u.raw >>> 0) &&& 0x1FF).toUInt16 :=
    eq_toUInt16_shiftRight_mask 9 0 rfl rfl (by decide) (by rw [toNat_random]; omega)
  rw [fields, splitFields, ← ht, ← hw, ← hs, ← hr]

/-- Numbers whose lower parts fit below a place are ordered by the upper parts first. -/
theorem place_lt_iff {place a b low low' : Nat} (h : low < place) (h' : low' < place) :
    a * place + low < b * place + low' ↔ a < b ∨ a = b ∧ low < low' := by
  have hstep : ∀ {a b low : Nat} (low' : Nat), low < place → a < b →
      a * place + low < b * place + low' := by
    intro a b low low' hlow hab
    calc a * place + low
      _ < a * place + place := Nat.add_lt_add_left hlow _
      _ = (a + 1) * place := (Nat.succ_mul a place).symm
      _ ≤ b * place := Nat.mul_le_mul_right place hab
      _ ≤ b * place + low' := Nat.le_add_right _ _
  rcases Nat.lt_trichotomy a b with hab | rfl | hba
  · exact iff_of_true (hstep low' h hab) (.inl hab)
  · simp
  · have hlt := hstep low h' hba
    omega

/-- Identifiers are ordered as the tuples of their fields. -/
theorem lt_iff_fields {u v : Uid} : u < v ↔ u.fields < v.fields := by
  have hraw : ∀ u : Uid, u.raw.toNat = u.timestamp.toNat * 2 ^ 28
      + (u.workerId.toNat * 2 ^ 19 + (u.sequence.toNat * 2 ^ 9 + u.random.toNat)) := by
    intro u
    rw [toNat_raw]
    omega
  have hrandom : ∀ u : Uid, u.random.toNat < 2 ^ 9 := by
    intro u
    rw [toNat_random]
    omega
  have hsequence : ∀ u : Uid, u.sequence.toNat * 2 ^ 9 + u.random.toNat < 2 ^ 19 := by
    intro u
    rw [toNat_sequence, toNat_random]
    omega
  have hworker : ∀ u : Uid,
      u.workerId.toNat * 2 ^ 19 + (u.sequence.toNat * 2 ^ 9 + u.random.toNat) < 2 ^ 28 := by
    intro u
    rw [toNat_workerId, toNat_sequence, toNat_random]
    omega
  rw [lt_iff_toNat, hraw u, hraw v, place_lt_iff (hworker u) (hworker v),
    place_lt_iff (hsequence u) (hsequence v), place_lt_iff (hrandom u) (hrandom v)]
  simp only [fields, Prod.Lex.toLex_lt_toLex, UInt64.lt_iff_toNat_lt, UInt16.lt_iff_toNat_lt,
    UInt64.toNat_inj, UInt16.toNat_inj]

/-! ## Packing and unpacking -/

/-- The packed integer never exceeds 63 bits, so the lower end of the range decides alone. -/
theorem exists_ofFields_iff {t : UInt64} {w s r : UInt16} :
    (∃ u, ofFields t w s r = .ok u) ↔ 2 ^ 18 ≤ (pack t w s r).toNat := by
  have hmin : minRaw ≤ pack t w s r ↔ 2 ^ 18 ≤ (pack t w s r).toNat := UInt64.le_iff_toNat_le
  constructor
  · rintro ⟨u, hu⟩
    rw [← hmin, ← raw_of_ofFields hu]
    exact u.minRaw_le
  · intro h
    have hmax : pack t w s r ≤ maxRaw := by
      rw [UInt64.le_iff_toNat_le, toNat_pack]
      simp only [maxRaw, UInt64.reduceToNat]
      omega
    exact ⟨_, ofRaw_eq_ok (hmin.2 h) hmax⟩

/-- Fields are read back modulo their widths. -/
theorem fields_of_ofFields {t : UInt64} {w s r : UInt16} {u : Uid} (h : ofFields t w s r = .ok u) :
    u.timestamp.toNat = t.toNat % 2 ^ 35 ∧ u.workerId.toNat = w.toNat % 2 ^ 9 ∧
      u.sequence.toNat = s.toNat % 2 ^ 10 ∧ u.random.toNat = r.toNat % 2 ^ 9 := by
  have hraw := congrArg UInt64.toNat (raw_of_ofFields h)
  rw [toNat_pack] at hraw
  rw [toNat_timestamp, toNat_workerId, toNat_sequence, toNat_random]
  omega

/-- The fields of an identifier are within their widths, so packing them loses nothing. -/
theorem ofFields_fields (u : Uid) :
    ofFields u.timestamp u.workerId u.sequence u.random = .ok u := by
  have hraw : pack u.timestamp u.workerId u.sequence u.random = u.raw := by
    apply UInt64.toNat_inj.1
    have hmax := u.toNat_raw_lt
    rw [toNat_pack, toNat_timestamp, toNat_workerId, toNat_sequence, toNat_random]
    omega
  rw [ofFields, hraw, ofRaw_raw]

/-- Any four words are packed into the identifier whose storage integer joins their lowest 35, 9, 10
and 9 bits, unless that integer is below the least storage integer, and the fields of the identifier
are the words modulo their widths. The fields of an identifier are cut out of its storage integer,
packing them gives the identifier back, and so does reading its signed form, which is not negative.
Identifiers are ordered as their fields are lexicographically, the timestamp first. -/
theorem packing_is_order_isomorphism :
    (∀ (t : UInt64) (w s r : UInt16),
      ((∃ u, ofFields t w s r = .ok u) ↔ 2 ^ 18 ≤ (joinFields t w s r).toNat) ∧
      ∀ u, ofFields t w s r = .ok u →
        u.raw = joinFields t w s r ∧
        u.timestamp.toNat = t.toNat % 2 ^ 35 ∧ u.workerId.toNat = w.toNat % 2 ^ 9 ∧
        u.sequence.toNat = s.toNat % 2 ^ 10 ∧ u.random.toNat = r.toNat % 2 ^ 9) ∧
    (∀ u : Uid, u.fields = splitFields u.raw ∧
      ofFields u.timestamp u.workerId u.sequence u.random = .ok u ∧
      ofInt64 u.toInt64 = .ok u ∧ 0 ≤ u.toInt64) ∧
    ∀ u v : Uid, u < v ↔ u.fields < v.fields := by
  refine ⟨fun t w s r => ⟨?packs, fun u hu => ?unpacks⟩, fun u => ?keeps, fun u v => lt_iff_fields⟩
  case packs => rw [exists_ofFields_iff, joinFields_eq_pack]
  case unpacks =>
    rw [joinFields_eq_pack]
    exact ⟨raw_of_ofFields hu, fields_of_ofFields hu⟩
  case keeps =>
    have hsigned : 0 ≤ u.toInt64 := by
      rw [Int64.le_iff_toInt_le, toInt_toInt64]
      exact Int.natCast_nonneg _
    exact ⟨fields_eq_splitFields u, ofFields_fields u, ofInt64_toInt64 u, hsigned⟩

end Chronicle.Uid
