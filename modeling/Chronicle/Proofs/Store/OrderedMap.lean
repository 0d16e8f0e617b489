-- SUMMARY: What an ordered map holds after a change, and maps whose keys and values are written in another form.
import Chronicle.Store.OrderedMap
import Mathlib.Data.List.Nodup

/-!
# Entries of ordered maps

A map holds a value under a key exactly if it has that entry, so a change at one key is not seen at
any other. If keys are written in another form of the same order, and values in any other form, the
map of the written entries is read and changed as the map itself is, entry by entry.
-/

namespace Chronicle.OrderedMap

/-! ## Lookups -/

section Lookups

variable {K V : Type} [Ord K] {m : OrderedMap K V} {j k : K} {v : V}

theorem mem_of_mem_beyond {start : Option K} {d : Direction} {e : K × V}
    (h : e ∈ m.beyond start d) : e ∈ m.entries := by
  cases d with
  | ascending =>
    cases start with
    | none => exact h
    | some k => exact (mem_above.1 h).1
  | descending =>
    cases start with
    | none => exact List.mem_reverse.1 h
    | some k => exact (mem_below.1 (List.mem_reverse.1 h)).1

variable [Std.LawfulEqOrd K]

theorem nodup_keys (m : OrderedMap K V) : (m.entries.map (·.1)).Nodup := by
  refine List.pairwise_map.2 (m.ascending.imp fun {a b} hlt heq => ?_)
  have hself : compare b.1 b.1 = .eq := Std.ReflCmp.compare_self
  rw [heq, hself] at hlt
  cases hlt

theorem mem_of_find? {e : K × V} (h : m.entries.find? (fun e => compare e.1 k == .eq) = some e) :
    e ∈ m.entries ∧ e.1 = k := by
  have hcompare := List.find?_some h
  rw [beq_iff_eq] at hcompare
  exact ⟨List.mem_of_find?_eq_some h, Std.LawfulEqCmp.eq_of_compare hcompare⟩

theorem get?_eq_some_iff : m.get? k = some v ↔ (k, v) ∈ m.entries := by
  constructor
  · intro h
    obtain ⟨e, hfind, rfl⟩ := Option.map_eq_some_iff.1 h
    obtain ⟨hmem, rfl⟩ := mem_of_find? hfind
    exact hmem
  · intro h
    cases hfind : m.entries.find? (fun e => compare e.1 k == .eq) with
    | none =>
      have hne := List.find?_eq_none.1 hfind (k, v) h
      simp [Std.ReflCmp.compare_self] at hne
    | some e =>
      obtain ⟨hmem, hkey⟩ := mem_of_find? hfind
      have he : e = (k, v) := List.inj_on_of_nodup_map m.nodup_keys hmem h hkey
      rw [get?, hfind, he]
      rfl

variable [Std.TransOrd K]

theorem mem_entries_insert {e : K × V} :
    e ∈ (m.insert k v).entries ↔ e = (k, v) ∨ e.1 ≠ k ∧ e ∈ m.entries := by
  rw [entries_insert, List.mem_append, List.mem_cons, mem_below, mem_above]
  cases hcompare : compare e.1 k with
  | eq =>
    have hkey : e.1 = k := Std.LawfulEqCmp.eq_of_compare hcompare
    simp [hkey]
  | lt | gt =>
    have hkey : e.1 ≠ k := by
      rintro rfl
      have hself : compare e.1 e.1 = .eq := Std.ReflCmp.compare_self
      rw [hself] at hcompare
      cases hcompare
    simp [hkey, or_comm]

/-- What is stored under a key does not change what is stored under another. -/
theorem get?_insert_of_ne (h : j ≠ k) : (m.insert k v).get? j = m.get? j := by
  refine Option.ext fun w => ?_
  rw [get?_eq_some_iff, get?_eq_some_iff, mem_entries_insert]
  simp [h]

end Lookups

/-! ## Entries in another form -/

section Recode

variable {K V K' V' : Type} [Ord K] [Ord K'] (m : OrderedMap K V) (key : K → K') (value : V → V')
  (hkey : ∀ a b, compare (key a) (key b) = compare a b)

/-- The map of the same entries, with keys and values in another form. The form of keys keeps
their order. -/
def recode : OrderedMap K' V' where
  entries := m.entries.map fun e => (key e.1, value e.2)
  ascending := List.pairwise_map.2 (m.ascending.imp fun h => (hkey _ _).trans h)

@[simp] theorem entries_recode :
    (m.recode key value hkey).entries = m.entries.map fun e => (key e.1, value e.2) := rfl

@[simp] theorem size_recode : (m.recode key value hkey).size = m.size :=
  List.length_map _

@[simp] theorem isEmpty_recode : (m.recode key value hkey).isEmpty = m.isEmpty :=
  List.isEmpty_map

theorem below_recode (k : K) :
    (m.recode key value hkey).below (key k)
      = (m.below k).map fun e => (key e.1, value e.2) := by
  simp only [below, entries_recode, List.filter_map, Function.comp_def, hkey]

theorem above_recode (k : K) :
    (m.recode key value hkey).above (key k)
      = (m.above k).map fun e => (key e.1, value e.2) := by
  simp only [above, entries_recode, List.filter_map, Function.comp_def, hkey]

theorem beyond_recode (start : Option K) (d : Direction) :
    (m.recode key value hkey).beyond (start.map key) d
      = (m.beyond start d).map fun e => (key e.1, value e.2) := by
  cases d with
  | ascending =>
    cases start with
    | none => rfl
    | some k => exact m.above_recode key value hkey k
  | descending =>
    cases start with
    | none => exact List.map_reverse.symm
    | some k =>
      simp only [beyond, Option.map_some, below_recode, List.map_reverse]

theorem get?_recode (k : K) :
    (m.recode key value hkey).get? (key k) = (m.get? k).map value := by
  simp only [get?, entries_recode, List.find?_map, Function.comp_def, hkey, Option.map_map]

theorem insert_recode [Std.TransOrd K] [Std.TransOrd K'] (k : K) (v : V) :
    (m.recode key value hkey).insert (key k) (value v)
      = (m.insert k v).recode key value hkey := by
  apply OrderedMap.ext
  rw [entries_insert, below_recode, above_recode, entries_recode, entries_insert, List.map_append,
    List.map_cons]

end Recode

end Chronicle.OrderedMap
