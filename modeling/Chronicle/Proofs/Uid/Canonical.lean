-- SUMMARY: A text is the display form of one identifier or is refused, and what is wrong with it then.
import Chronicle.Proofs.Uid.Display
import Chronicle.Proofs.Uid.Fields
import Mathlib.Data.String.Basic

/-!
# Display forms are canonical

An identifier is read from its display form and from no other text. Digits without a leading zero
are the digits of the number that they spell, so what is read can be written again symbol by
symbol. A text that is refused is of the wrong size, has a character that is no symbol, starts its
number with the zero symbol, or spells a number beyond 63 bits.
-/

namespace Chronicle.Uid

/-! ## Digits -/

theorem getLast?_ne_of_cons {d : Digit} {ds : List Digit} (h : (d :: ds).getLast? ≠ some 0) :
    ds.getLast? ≠ some 0 := by
  intro hzero
  rw [List.getLast?_cons, hzero] at h
  exact h rfl

/-- Without a leading zero, only no digits at all spell zero. -/
theorem ofLowDigits_cons_ne_zero {d : Digit} {ds : List Digit}
    (h : (d :: ds).getLast? ≠ some 0) : ofLowDigits (d :: ds) ≠ 0 := by
  induction ds generalizing d with
  | nil =>
    intro hzero
    have hd : d = 0 := Fin.ext hzero
    exact h (congrArg some hd)
  | cons e ds ih =>
    have hrest := ih (getLast?_ne_of_cons h)
    rw [ofLowDigits]
    omega

/-- Digits without a leading zero are the digits of the number that they spell. -/
theorem lowDigits_ofLowDigits {ds : List Digit} (h : ds.getLast? ≠ some 0) :
    lowDigits (ofLowDigits ds) = ds := by
  induction ds with
  | nil => exact lowDigits_zero
  | cons d ds ih =>
    have hlow : ofLowDigits (d :: ds) % 64 = d.val := by
      rw [ofLowDigits]
      omega
    have hhigh : ofLowDigits (d :: ds) / 64 = ofLowDigits ds := by
      rw [ofLowDigits]
      omega
    rw [lowDigits, if_neg (ofLowDigits_cons_ne_zero h), hhigh, ih (getLast?_ne_of_cons h)]
    exact congrArg (· :: ds) (Fin.ext hlow)

/-! ## What is read can be written again -/

theorem map_symbol_of_mapM_digit? {cs : List Char} {ds : List Digit}
    (h : cs.mapM digit? = some ds) : ds.map symbol = cs := by
  induction cs generalizing ds with
  | nil => cases h; rfl
  | cons c cs ih =>
    rw [List.mapM_cons] at h
    obtain ⟨d, hd, h⟩ := Option.bind_eq_some_iff.1 h
    obtain ⟨ds', hds, h⟩ := Option.bind_eq_some_iff.1 h
    cases h
    rw [List.map_cons, symbol_of_digit? hd, ih hds]

/-- The digits of a good display form, put in order, are those of its number. -/
theorem rotate_lowDigits_of_displayValue? {ds : List Digit} {n : Nat}
    (h : displayValue? ds = some n) : rotate (lowDigits n) = ds := by
  match ds with
  | [] | [_] => cases h
  | low :: high :: rest =>
    rw [displayValue?] at h
    split at h
    next => cases h
    next hgood =>
      obtain rfl := Option.some.inj h
      have hlast : (rotate (low :: high :: rest)).getLast? ≠ some 0 := by
        rw [rotate, List.reverse_cons, ← List.cons_append, List.getLast?_concat]
        intro hzero
        exact hgood (.inr (.inr (Option.some.inj hzero)))
      rw [lowDigits_ofLowDigits hlast, rotate_rotate]

theorem ofNat?_eq_some_iff {n : Nat} {u : Uid} : ofNat? n = some u ↔ u.raw.toNat = n := by
  constructor
  · intro h
    rw [ofNat?] at h
    split at h
    next hn => rw [ofRaw?_eq_some_iff.1 h, UInt64.toNat_ofNat_of_lt' hn]
    next => cases h
  · rintro rfl
    exact ofNat?_toNat_raw u

/-- An identifier is read from its display form and from no other text. -/
theorem ofDisplay?_eq_some_iff {s : String} {u : Uid} :
    ofDisplay? s = some u ↔ s = u.toDisplay := by
  constructor
  · intro h
    rw [ofDisplay?] at h
    obtain ⟨ds, hds, h⟩ := Option.bind_eq_some_iff.1 h
    obtain ⟨n, hn, h⟩ := Option.bind_eq_some_iff.1 h
    rw [← String.toList_inj, toList_toDisplay, displaySymbols, ofNat?_eq_some_iff.1 h,
      rotate_lowDigits_of_displayValue? hn, map_symbol_of_mapM_digit? hds]
  · rintro rfl
    exact ofDisplay?_toDisplay u

theorem ofDisplay_eq_ok_iff {s : String} {u : Uid} : ofDisplay s = .ok u ↔ s = u.toDisplay := by
  rw [← ofDisplay?_eq_some_iff, ofDisplay]
  cases ofDisplay? s with
  | none => simp
  | some v => simp

theorem ofDisplay?_eq_none_iff_ne {s : String} :
    ofDisplay? s = none ↔ ∀ u : Uid, s ≠ u.toDisplay := by
  rw [Option.eq_none_iff_forall_ne_some]
  exact forall_congr' fun u => not_congr ofDisplay?_eq_some_iff

/-- What is no display form is refused as it stands. -/
theorem ofDisplay_eq_error_iff {s : String} :
    ofDisplay s = .error (.invalidIdentifier s) ↔ ∀ u : Uid, s ≠ u.toDisplay := by
  rw [← ofDisplay?_eq_none_iff_ne, ofDisplay]
  cases ofDisplay? s with
  | none => simp
  | some u => simp

/-! ## What is wrong with other texts -/

/-- The number that symbols spell when they are read from the left, the first of them last. -/
def spelled : List Char → Nat
  | [] => 0
  | low :: high => (high ++ [low]).foldl (fun n c => 64 * n + alphabet.idxOf c) 0

/-- What can be wrong with a text that should be a display form. -/
inductive Malformed (s : String) : Prop
  | short (h : s.utf8ByteSize < minDisplayLength)
  | long (h : maxDisplayLength < s.utf8ByteSize)
  | foreign (c : Char) (h : c ∈ s.toList) (hc : c ∉ alphabet)
  /-- The most significant symbol, which is shown second, is that of zero. -/
  | leadingZero (h : s.toList[1]? = some 'A')
  | large (h : 2 ^ 63 ≤ spelled s.toList)

theorem digit?_eq_none_iff {c : Char} : digit? c = none ↔ c ∉ alphabet := by
  rw [digit?, Option.map_eq_none_iff, List.finIdxOf?_eq_none_iff]

theorem exists_mapM_digit? {cs : List Char} (h : ∀ c ∈ cs, c ∈ alphabet) :
    ∃ ds, cs.mapM digit? = some ds := by
  induction cs with
  | nil => exact ⟨[], rfl⟩
  | cons c cs ih =>
    obtain ⟨hc, hcs⟩ := List.forall_mem_cons.1 h
    obtain ⟨ds, hds⟩ := ih hcs
    obtain ⟨d, hd⟩ := Option.ne_none_iff_exists'.1 fun hnone => digit?_eq_none_iff.1 hnone hc
    exact ⟨d :: ds, by rw [List.mapM_cons, hd, hds]; rfl⟩

theorem symbol_mem_alphabet (d : Digit) : symbol d ∈ alphabet :=
  List.getElem_mem _

theorem nodup_alphabet : alphabet.Nodup := by decide

theorem idxOf_symbol (d : Digit) : alphabet.idxOf (symbol d) = d.val :=
  nodup_alphabet.idxOf_getElem _ _

/-- Symbols take one byte each. -/
theorem utf8Size_of_mem_alphabet {c : Char} (h : c ∈ alphabet) : c.utf8Size = 1 := by
  have hall : alphabet.all (fun c => c.utf8Size == 1) = true := by decide
  exact beq_iff_eq.1 (List.all_eq_true.1 hall c h)

theorem utf8ByteSize_eq_length {s : String} (h : ∀ c ∈ s.toList, c ∈ alphabet) :
    s.utf8ByteSize = s.toList.length := by
  rw [← String.ofList_toList (s := s), String.utf8ByteSize_ofList, String.toList_ofList]
  generalize s.toList = cs at h
  induction cs with
  | nil => rfl
  | cons c cs ih =>
    obtain ⟨hc, hcs⟩ := List.forall_mem_cons.1 h
    rw [String.utf8Len_cons, ih hcs, utf8Size_of_mem_alphabet hc, List.length_cons]

/-- Reading from the left puts every digit below those read before it. -/
theorem foldl_reverse_symbols (ds : List Digit) :
    (ds.reverse.map symbol).foldl (fun n c => 64 * n + alphabet.idxOf c) 0 = ofLowDigits ds := by
  induction ds with
  | nil => rfl
  | cons d ds ih =>
    rw [List.reverse_cons, List.map_append, List.foldl_append, ih, ofLowDigits]
    simp only [List.map_cons, List.map_nil, List.foldl_cons, List.foldl_nil, idxOf_symbol]
    omega

theorem spelled_symbols (ds : List Digit) : spelled (ds.map symbol) = ofLowDigits (rotate ds) := by
  cases ds with
  | nil => rfl
  | cons low high =>
    rw [rotate, ← foldl_reverse_symbols, List.reverse_cons, List.reverse_reverse, List.map_append]
    rfl

theorem symbol_injective : Function.Injective symbol := by
  intro d e h
  have hread := congrArg digit? h
  rw [digit?_symbol, digit?_symbol] at hread
  exact Option.some.inj hread

theorem getElem?_map_symbol_eq_some_iff {ds : List Digit} {i : Nat} {d : Digit} :
    (ds.map symbol)[i]? = some (symbol d) ↔ ds[i]? = some d := by
  rw [List.getElem?_map, Option.map_eq_some_iff]
  simp only [symbol_injective.eq_iff, exists_eq_right]

theorem displayValue?_eq_none_iff {ds : List Digit} :
    displayValue? ds = none
      ↔ ds.length < minDisplayLength ∨ maxDisplayLength < ds.length ∨ ds[1]? = some 0 := by
  rcases ds with _ | ⟨low, _ | ⟨high, rest⟩⟩
  · simp [displayValue?, minDisplayLength]
  · simp [displayValue?, minDisplayLength]
  · rw [displayValue?, List.getElem?_cons_succ, List.getElem?_cons_zero, Option.some.injEq]
    split
    next hbad => exact iff_of_true rfl hbad
    next hgood => exact iff_of_false (Option.some_ne_none _) hgood

theorem eq_of_displayValue? {ds : List Digit} {n : Nat} (h : displayValue? ds = some n) :
    n = ofLowDigits (rotate ds) := by
  rw [← rotate_lowDigits_of_displayValue? h, rotate_rotate, ofLowDigits_lowDigits]

/-- The number of a good display form is no smaller than the least storage integer. -/
theorem le_of_displayValue? {ds : List Digit} {n : Nat} (h : displayValue? ds = some n) :
    64 ^ 3 ≤ n := by
  have hlength : (lowDigits n).length = ds.length := by
    rw [← length_rotate, rotate_lowDigits_of_displayValue? h]
  have hgood : ¬ ds.length < minDisplayLength := by
    intro hshort
    rw [displayValue?_eq_none_iff.2 (.inl hshort)] at h
    cases h
  rw [minDisplayLength] at hgood
  refine Nat.not_lt.1 fun hlt => ?_
  have hfew := length_lowDigits_le_iff.2 hlt
  omega

theorem ofNat?_eq_none_iff {n : Nat} (h : 64 ^ 3 ≤ n) : ofNat? n = none ↔ 2 ^ 63 ≤ n := by
  constructor
  · intro hnone
    refine Nat.not_lt.1 fun hlt => ?_
    have hn : n < UInt64.size := Nat.lt_trans hlt (by decide)
    have hraw : (UInt64.ofNat n).toNat = n := UInt64.toNat_ofNat_of_lt' hn
    have hlo : minRaw ≤ UInt64.ofNat n := by
      rw [UInt64.le_iff_toNat_le, hraw]
      exact h
    have hhi : UInt64.ofNat n ≤ maxRaw := by
      rw [UInt64.le_iff_toNat_le, hraw]
      exact Nat.le_of_lt_succ hlt
    rw [ofNat?, if_pos hn, ofRaw?, dif_pos ⟨hlo, hhi⟩] at hnone
    cases hnone
  · intro hlarge
    refine Option.eq_none_iff_forall_ne_some.2 fun u hu => ?_
    have hle := UInt64.le_iff_toNat_le.1 u.le_maxRaw
    rw [ofNat?_eq_some_iff.1 hu] at hle
    exact absurd (Nat.lt_of_le_of_lt hle (by decide)) (Nat.not_lt.2 hlarge)

/-- A text of symbols is refused for its size, for its second symbol or for its number. -/
theorem ofDisplay?_symbols_eq_none_iff {s : String} {ds : List Digit}
    (hs : s.toList.mapM digit? = some ds) :
    ofDisplay? s = none
      ↔ ds.length < minDisplayLength ∨ maxDisplayLength < ds.length ∨ ds[1]? = some 0 ∨
        2 ^ 63 ≤ ofLowDigits (rotate ds) := by
  rw [ofDisplay?, hs, Option.bind_some]
  cases hn : displayValue? ds with
  | none =>
    have hwhy := displayValue?_eq_none_iff.1 hn
    tauto
  | some n =>
    have hgood := mt displayValue?_eq_none_iff.2 (Option.ne_none_iff_exists'.2 ⟨n, hn⟩)
    rw [Option.bind_some, ofNat?_eq_none_iff (le_of_displayValue? hn), eq_of_displayValue? hn]
    tauto

/-- A text is refused exactly when something is wrong with it. -/
theorem ofDisplay?_eq_none_iff {s : String} : ofDisplay? s = none ↔ Malformed s := by
  by_cases hsymbols : ∀ c ∈ s.toList, c ∈ alphabet
  · obtain ⟨ds, hds⟩ := exists_mapM_digit? hsymbols
    have hs : s.toList = ds.map symbol := (map_symbol_of_mapM_digit? hds).symm
    have hsize : s.utf8ByteSize = ds.length := by
      rw [utf8ByteSize_eq_length hsymbols, hs, List.length_map]
    have hsecond : s.toList[1]? = some 'A' ↔ ds[1]? = some 0 := by
      have hzero : symbol 0 = 'A' := rfl
      rw [hs, ← hzero, getElem?_map_symbol_eq_some_iff]
    have hspelled : spelled s.toList = ofLowDigits (rotate ds) := by rw [hs, spelled_symbols]
    rw [ofDisplay?_symbols_eq_none_iff hds, ← hsize, ← hsecond, ← hspelled]
    constructor
    · rintro (h | h | h | h)
      · exact .short h
      · exact .long h
      · exact .leadingZero h
      · exact .large h
    · intro h
      cases h with
      | short h => exact .inl h
      | long h => exact .inr (.inl h)
      | foreign c h hc => exact absurd (hsymbols c h) hc
      | leadingZero h => exact .inr (.inr (.inl h))
      | large h => exact .inr (.inr (.inr h))
  · obtain ⟨c, hc⟩ := not_forall.1 hsymbols
    obtain ⟨hmem, hforeign⟩ := Classical.not_imp.1 hc
    refine ⟨fun _ => .foreign c hmem hforeign, fun _ => ?_⟩
    refine Option.eq_none_iff_forall_ne_some.2 fun u hu => ?_
    rw [ofDisplay?_eq_some_iff.1 hu, toList_toDisplay, displaySymbols] at hmem
    obtain ⟨d, -, rfl⟩ := List.mem_map.1 hmem
    exact hforeign (symbol_mem_alphabet d)

/-! ## The display form of an identifier -/

/-- Reading and writing display forms are inverse to each other. A text is read as an identifier
exactly if it is its display form; storage integers are read back from their display forms, and
texts that are read are written again as they were. A text that is no display form is refused as
it stands, and what is refused is malformed. -/
theorem ofDisplay_inverts_toDisplay (s : String) :
    (∀ u, ofDisplay s = .ok u ↔ s = u.toDisplay) ∧
    (∀ raw, minRaw ≤ raw → raw ≤ maxRaw →
      ((ofRaw raw).map toDisplay).bind (fun t => (ofDisplay t).map Uid.raw) = .ok raw) ∧
    (∀ raw, (ofDisplay s).map Uid.raw = .ok raw → (ofRaw raw).map toDisplay = .ok s) ∧
    (∀ t u, ofDisplay s = .ok u → ofDisplay t = .ok u → s = t) ∧
    ((∀ u : Uid, s ≠ u.toDisplay) ↔ ofDisplay s = .error (.invalidIdentifier s)) ∧
    (ofDisplay s = .error (.invalidIdentifier s) ↔ Malformed s) := by
  refine ⟨fun u => ofDisplay_eq_ok_iff, ?decode, ?encode, ?injective, ofDisplay_eq_error_iff.symm,
    ?malformed⟩
  case decode =>
    intro raw hlo hhi
    let u : Uid := ⟨raw, hlo, hhi⟩
    have hread : ofDisplay u.toDisplay = .ok u := ofDisplay_eq_ok_iff.2 rfl
    rw [ofRaw_eq_ok hlo hhi]
    show (ofDisplay u.toDisplay).map Uid.raw = _
    rw [hread]
    rfl
  case encode =>
    intro raw h
    cases hs : ofDisplay s with
    | error f => rw [hs] at h; cases h
    | ok u =>
      rw [hs] at h
      obtain rfl : u.raw = raw := by cases h; rfl
      rw [ofRaw_raw, ofDisplay_eq_ok_iff.1 hs]
      rfl
  case injective =>
    intro t u hs ht
    rw [ofDisplay_eq_ok_iff.1 hs, ofDisplay_eq_ok_iff.1 ht]
  case malformed =>
    rw [ofDisplay_eq_error_iff, ← ofDisplay?_eq_none_iff_ne, ofDisplay?_eq_none_iff]

end Chronicle.Uid
