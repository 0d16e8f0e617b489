-- SUMMARY: Identifiers in JSON are read back from what is written for them, and where their strings are read otherwise than texts.
import Chronicle.Json.Identifier
import Chronicle.Proofs.Uid.Forms

/-!
# Identifiers in JSON, read back

A string is tried as a display form as it stands, then as a text. The order matters only where both
readings succeed, which is on the ambiguous texts: there the string is the display form and the text
is the storage integer. Everywhere else a string is what it is as a text, and what is written for an
identifier in either form is read back.
-/

namespace Chronicle.Uid

open Json

/-! ## Strings -/

theorem ofJsonString_toDisplay (u : Uid) : ofJsonString u.toDisplay = .ok u := by
  rw [ofJsonString, ofDisplay?_toDisplay]

/-- A string and a text are read alike if the string is not ambiguous. -/
theorem ofJsonString_eq_ofText {s : String} (h : ¬ Ambiguous s) : ofJsonString s = ofText s := by
  cases hs : ofDisplay? s with
  | none => rw [ofJsonString, hs]
  | some u =>
    obtain rfl := ofDisplay?_eq_some_iff.1 hs
    rw [ofJsonString_toDisplay, ofText_of_not_ambiguous (Text.Pads.refl _) h]

/-! ## Fields -/

/-- A storage integer is read in either form. -/
theorem ofJson_natural (form : Form) (u : Uid) : ofJson form (.natural u.raw) = .ok u := by
  have hread : (ofRaw u.raw).mapError Failure.refused = .ok u := by
    rw [ofRaw_raw]
    rfl
  cases form with
  | display => exact hread
  | storage => exact hread

theorem ofJson_string_toDisplay (u : Uid) : ofJson .display (.string u.toDisplay) = .ok u := by
  rw [ofJson, ofJsonString_toDisplay]
  rfl

theorem ofJson_toJson (form : Form) (u : Uid) : ofJson form (u.toJson form) = .ok u := by
  cases form with
  | display => exact ofJson_string_toDisplay u
  | storage => exact ofJson_natural .storage u

/-- Read as JSON in display form, a string is what it is as a text, refusals included, unless it is
ambiguous as it stands. An ambiguous string is the identifier whose display form it is, while the
text is the one whose storage integer it is, and the two differ. What is written in either form is
read back in display form, what is written in storage form is read back in storage form, and in
storage form no string is read. -/
theorem ofJson_agrees_with_text :
    (∀ s : String, ¬ Ambiguous s →
      ofJson .display (.string s) = (parse (.text s)).mapError Failure.refused) ∧
    (∀ s : String, Ambiguous s → ∃ u v : Uid, s = u.toDisplay ∧ v.raw.toNat = decimalValue s ∧
      u ≠ v ∧ ofJson .display (.string s) = .ok u ∧ parse (.text s) = .ok v) ∧
    (∀ u : Uid, ofJson .display (u.toJson .display) = .ok u ∧
      ofJson .display (u.toJson .storage) = .ok u ∧ ofJson .storage (u.toJson .storage) = .ok u) ∧
    (∀ s : String, ofJson .storage (.string s) = .error (.noIdentifier .storage)) := by
  refine ⟨fun s h => ?agree, fun s h => ?differ, fun u => ?written, fun s => rfl⟩
  case agree => rw [ofJson, ofJsonString_eq_ofText h, parse]
  case differ =>
    obtain ⟨u, -, rfl, -, -⟩ := h.readings
    obtain ⟨v, hvalue, hne, htext⟩ := ofText_of_ambiguous (Text.Pads.refl _) h
    exact ⟨u, v, rfl, hvalue, hne.symm, ofJson_string_toDisplay u, htext⟩
  case written =>
    exact ⟨ofJson_toJson .display u, ofJson_natural .display u, ofJson_toJson .storage u⟩

end Chronicle.Uid

namespace Chronicle.Row

/-- A row is read back from the object that is written for it. -/
theorem ofJson_toJson (r : Row) : ofJson r.toJson = .ok r := by
  have hid : field? .display (some (r.id.toJson .display)) = .ok (some r.id) := by
    rw [field?, Uid.ofJson_toJson]
    rfl
  have hthread : field? .storage (some (r.threadId.toJson .storage)) = .ok (some r.threadId) := by
    rw [field?, Uid.ofJson_toJson]
    rfl
  show ofFields (some (r.id.toJson .display)) (some (r.threadId.toJson .storage)) = .ok r
  rw [ofFields, hid, hthread]
  rfl

end Chronicle.Row
