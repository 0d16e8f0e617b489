-- SUMMARY: Every form of an identifier is read back as the identifier, but for digits that are also another storage integer.
import Chronicle.Proofs.Uid.Decimal

/-!
# Forms of identifiers

A text of unknown origin is read in decimal first and as a display form only if that fails. Blanks
around it and leading zeros make no difference, and neither do the other forms in which an
identifier can be given. Only a display form that is an ambiguous text of digits is lost, to the
identifier whose storage integer the digits are.
-/

namespace Chronicle.Text

/-! ## Blanks around a text -/

/-- The first text is the second with blanks in front of it and behind it, if any. -/
def Pads (t s : String) : Prop :=
  ∃ before after : String, (∀ c ∈ before.toList, isBlank c = true) ∧
    (∀ c ∈ after.toList, isBlank c = true) ∧ t = before ++ s ++ after

theorem Pads.refl (s : String) : Pads s s :=
  ⟨"", "", by simp, by simp, by simp⟩

theorem Pads.trim_eq {t s : String} (h : Pads t s) (hs : ∀ c ∈ s.toList, isBlank c = false)
    (hne : s ≠ "") : trim t = s := by
  obtain ⟨before, after, hbefore, hafter, rfl⟩ := h
  have hlist : s.toList ≠ [] := mt String.toList_eq_nil_iff.1 hne
  rw [← String.toList_inj, toList_trim, String.toList_append, String.toList_append,
    trimBlanks_append hbefore hafter hs hlist]

end Chronicle.Text

namespace Chronicle.Uid

/-! ## Texts without blanks -/

theorem isBlank_of_mem_alphabet {c : Char} (h : c ∈ alphabet) : Text.isBlank c = false := by
  have hall : alphabet.all (fun c => !Text.isBlank c) = true := by decide
  exact Bool.not_eq_true' _ ▸ List.all_eq_true.1 hall c h

theorem mem_alphabet_of_mem_toDisplay {u : Uid} {c : Char} (h : c ∈ u.toDisplay.toList) :
    c ∈ alphabet := by
  rw [toList_toDisplay, displaySymbols] at h
  obtain ⟨d, -, rfl⟩ := List.mem_map.1 h
  exact symbol_mem_alphabet d

theorem trim_of_pads_toDisplay {t : String} {u : Uid} (h : Text.Pads t u.toDisplay) :
    Text.trim t = u.toDisplay :=
  h.trim_eq (fun _ hc => isBlank_of_mem_alphabet (mem_alphabet_of_mem_toDisplay hc))
    (toDisplay_ne_empty u)

/-- The storage integer in decimal behind zeros. -/
def zerosAndRaw (zeros : Nat) (u : Uid) : String :=
  String.ofList (List.replicate zeros '0') ++ toString u.raw

theorem toList_zerosAndRaw (zeros : Nat) (u : Uid) :
    (zerosAndRaw zeros u).toList = List.replicate zeros '0' ++ Nat.toDigits 10 u.raw.toNat := by
  have hraw : (toString u.raw).toList = Nat.toDigits 10 u.raw.toNat := Nat.toList_repr
  rw [zerosAndRaw, String.toList_append, String.toList_ofList, hraw]

theorem ofDecimal?_zerosAndRaw (zeros : Nat) (u : Uid) :
    ofDecimal? (zerosAndRaw zeros u).toList = some u := by
  rw [toList_zerosAndRaw, ofDecimal?_eq_some_iff]
  constructor
  · intro c hc
    rcases List.mem_append.1 hc with hzero | hdigit
    · rw [List.eq_of_mem_replicate hzero]
      rfl
    · exact Nat.isDigit_of_mem_toDigits (by decide) (by decide) hdigit
  · rw [Nat.ofDigitChars_append, Nat.ofDigitChars_replicate_zero, Nat.mul_zero,
      Nat.ofDigitChars_ten_toDigits]

/-! ## Reading a text -/

section

variable {t : String}

theorem ofText_of_decimal {u : Uid} (h : ofDecimal? (Text.trim t).toList = some u) :
    ofText t = .ok u := by
  rw [Text.toList_trim] at h
  rw [ofText, h]

theorem ofText_of_no_decimal (h : ofDecimal? (Text.trim t).toList = none) :
    ofText t = ofDisplay (Text.trim t) := by
  rw [Text.toList_trim] at h
  rw [ofText, h]

theorem ofText_of_pads_zerosAndRaw {zeros : Nat} {u : Uid} (h : Text.Pads t (zerosAndRaw zeros u)) :
    ofText t = .ok u := by
  have hread := ofDecimal?_zerosAndRaw zeros u
  have hdigits := (ofDecimal?_eq_some_iff.1 hread).1
  have hne : zerosAndRaw zeros u ≠ "" := by
    intro hempty
    rw [hempty] at hread
    cases hread
  have htrim : Text.trim t = zerosAndRaw zeros u :=
    h.trim_eq (fun c hc => isBlank_of_mem_alphabet (mem_alphabet_of_isDigit (hdigits c hc))) hne
  exact ofText_of_decimal (htrim ▸ hread)

/-- An ambiguous display form is read as the storage integer that its digits are. -/
theorem ofText_of_ambiguous {u : Uid} (h : Text.Pads t u.toDisplay) (ha : Ambiguous u.toDisplay) :
    ∃ v : Uid, v.raw.toNat = decimalValue u.toDisplay ∧ v ≠ u ∧ ofText t = .ok v := by
  obtain ⟨u', v, hu, hv, hlt⟩ := ha.readings
  obtain rfl : u = u' := Option.some.inj (ofDisplay?_toDisplay u ▸ ofDisplay?_eq_some_iff.2 hu)
  have htrim := trim_of_pads_toDisplay h
  refine ⟨v, (ofDecimal?_eq_some_iff.1 hv).2.symm, ?_, ofText_of_decimal (htrim ▸ hv)⟩
  rintro rfl
  exact Nat.lt_irrefl _ hlt

theorem ofText_of_not_ambiguous {u : Uid} (h : Text.Pads t u.toDisplay)
    (ha : ¬ Ambiguous u.toDisplay) : ofText t = .ok u := by
  have htrim := trim_of_pads_toDisplay h
  have hnone : ofDecimal? (Text.trim t).toList = none := by
    rw [htrim, Option.eq_none_iff_forall_ne_some]
    exact fun v hv => ha (ambiguous_of_readings hv)
  rw [ofText_of_no_decimal hnone, htrim]
  exact ofDisplay_eq_ok_iff.2 rfl

/-- A text is refused exactly if it is neither of the two without the blanks around it. -/
theorem ofText_eq_error_iff :
    ofText t = .error (.invalidIdentifier (Text.trim t))
      ↔ ¬ StorageText (Text.trim t) ∧ ∀ u : Uid, Text.trim t ≠ u.toDisplay := by
  cases h : ofDecimal? (Text.trim t).toList with
  | some u =>
    have hstorage : StorageText (Text.trim t) := exists_ofDecimal?_iff.1 ⟨u, h⟩
    rw [ofText_of_decimal h]
    exact iff_of_false nofun fun hno => hno.1 hstorage
  | none =>
    have hstorage : ¬ StorageText (Text.trim t) := by
      intro hyes
      obtain ⟨u, hu⟩ := exists_ofDecimal?_iff.2 hyes
      rw [h] at hu
      cases hu
    rw [ofText_of_no_decimal h, ofDisplay_eq_error_iff]
    exact (and_iff_right hstorage).symm

end

/-! ## Every form -/

/-- A storage integer has 63 bits, so as a signed value it is the same number. -/
theorem toInt_toInt64 (u : Uid) : u.toInt64.toInt = u.raw.toNat := by
  have hmax := u.toNat_raw_lt
  exact BitVec.toInt_eq_toNat_of_lt (show 2 * u.raw.toNat < 2 ^ 64 by omega)

theorem ofInt64_toInt64 (u : Uid) : ofInt64 u.toInt64 = .ok u := by
  have hpositive : ¬ u.toInt64 < 0 := by
    rw [Int64.lt_iff_toInt_lt, toInt_toInt64]
    exact Int.not_lt.2 (Int.natCast_nonneg _)
  rw [ofInt64, if_neg hpositive, toInt64, UInt64.toUInt64_toInt64, ofRaw_raw]

/-- Every form of an identifier is read as the identifier: its storage integer, unsigned or signed,
its display form, itself, and as a text its storage integer in decimal behind any number of zeros,
with any blanks around it. Its display form as a text is read as the identifier exactly if it is
not ambiguous; an ambiguous one is read as the storage integer that its digits are, which is that
of another identifier. A text is refused, without the blanks around it, if what is left is neither
a storage integer nor a display form. -/
theorem parse_reads_every_form :
    (∀ u : Uid, parse (.storage u.raw) = .ok u ∧ parse (.signed u.toInt64) = .ok u ∧
      parse (.display u.toDisplay) = .ok u ∧ parse (.parsed u) = .ok u) ∧
    (∀ (u : Uid) (zeros : Nat) (t : String), Text.Pads t (zerosAndRaw zeros u) →
      parse (.text t) = .ok u) ∧
    (∀ (u : Uid) (t : String), Text.Pads t u.toDisplay →
      (parse (.text t) = .ok u ↔ ¬ Ambiguous u.toDisplay) ∧
      (Ambiguous u.toDisplay →
        ∃ v : Uid, v.raw.toNat = decimalValue u.toDisplay ∧ v ≠ u ∧ parse (.text t) = .ok v)) ∧
    (∀ t : String, parse (.text t) = .error (.invalidIdentifier (Text.trim t))
      ↔ ¬ StorageText (Text.trim t) ∧ ∀ u : Uid, Text.trim t ≠ u.toDisplay) := by
  refine ⟨fun u => ⟨ofRaw_raw u, ofInt64_toInt64 u, ofDisplay_eq_ok_iff.2 rfl, rfl⟩,
    fun u zeros t h => ofText_of_pads_zerosAndRaw h, fun u t h => ⟨⟨?only, ?unambiguous⟩, ?ambiguous⟩,
    fun t => ofText_eq_error_iff⟩
  case only =>
    intro hread ha
    obtain ⟨v, -, hne, hv⟩ := ofText_of_ambiguous h ha
    exact hne (Except.ok.inj (hv.symm.trans hread))
  case unambiguous => exact ofText_of_not_ambiguous h
  case ambiguous => exact ofText_of_ambiguous h

end Chronicle.Uid
