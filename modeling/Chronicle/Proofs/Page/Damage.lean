-- SUMMARY: What a scan of stored records answers when keys or values of the tree are damaged.
import Chronicle.Page.Records
import Chronicle.Proofs.Page.Rows
import Chronicle.Proofs.Store.Bytes
import Chronicle.Proofs.Store.OrderedMap

/-!
# Scans of damaged trees

A tree may hold any bytes under any key. An entry that a scan passes holds a row that it looks for,
holds a record that the filter rejects, or is damaged. Over entries that are not damaged a scan
gathers their rows, up to the limit. It has the rows it is asked for or reaches the end, or it fails
at the first damaged entry.
-/

namespace Chronicle

/-! ## Keys of identifiers -/

namespace Uid

/-- A key spells an identifier: it has eight bytes, and their number is in range. -/
def KeySpells (key : Bytes) : Prop :=
  key.length = 8 ∧ minRaw.toNat ≤ key.value ∧ key.value ≤ maxRaw.toNat

theorem ofKey?_eq_some_iff {key : Bytes} {u : Uid} :
    ofKey? key = some u ↔ key.length = 8 ∧ key.value = u.raw.toNat := by
  by_cases h : key.length = 8
  · obtain ⟨w, hword, hvalue⟩ := Bytes.toWord?_eq_some h
    rw [ofKey?, hword, Option.bind_some, ofRaw?_eq_some_iff, ← hvalue, UInt64.toNat_inj, eq_comm]
    exact (and_iff_right h).symm
  · have hword : Bytes.toWord? key = none := if_neg h
    simp [ofKey?, hword, h]

theorem keySpells_iff {key : Bytes} : KeySpells key ↔ ∃ u, ofKey? key = some u := by
  simp only [ofKey?_eq_some_iff]
  constructor
  · rintro ⟨hlength, hmin, hmax⟩
    obtain ⟨w, -, hvalue⟩ := Bytes.toWord?_eq_some hlength
    rw [← hvalue, ← UInt64.le_iff_toNat_le] at hmin hmax
    exact ⟨⟨w, hmin, hmax⟩, hlength, hvalue.symm⟩
  · rintro ⟨u, hlength, hvalue⟩
    rw [KeySpells, hvalue]
    exact ⟨hlength, UInt64.le_iff_toNat_le.1 u.minRaw_le, UInt64.le_iff_toNat_le.1 u.le_maxRaw⟩

end Uid

namespace RecordStore

variable {V : Type} {codec : RecordCodec V} {filter : V → Bool}

/-! ## Entries -/

/-- The row that an entry holds, if it is a record that passes the filter, under an identifier. -/
def row? (codec : RecordCodec V) (filter : V → Bool) (e : Bytes × Bytes) : Option (Uid × V) :=
  match codec.decode e.2, Uid.ofKey? e.1 with
  | .ok v, some u => if filter v then some (u, v) else none
  | _, _ => none

/-- The rows that entries hold. -/
def rows (codec : RecordCodec V) (filter : V → Bool) (entries : List (Bytes × Bytes)) :
    List (Uid × V) :=
  entries.filterMap (row? codec filter)

theorem row?_eq_some_iff {e : Bytes × Bytes} {u : Uid} {v : V} :
    row? codec filter e = some (u, v)
      ↔ codec.decode e.2 = .ok v ∧ filter v = true ∧ e.1.length = 8 ∧ e.1.value = u.raw.toNat := by
  rw [← Uid.ofKey?_eq_some_iff, row?]
  cases codec.decode e.2 with
  | error detail => simp
  | ok w =>
    cases Uid.ofKey? e.1 with
    | none => simp
    | some u' =>
      by_cases hfilter : filter w = true
      · simp only [if_pos hfilter, Option.some.injEq, Prod.mk.injEq, Except.ok.injEq]
        constructor
        · rintro ⟨rfl, rfl⟩
          exact ⟨rfl, hfilter, rfl⟩
        · rintro ⟨rfl, -, rfl⟩
          exact ⟨rfl, rfl⟩
      · simp only [if_neg hfilter, Option.some.injEq, Except.ok.injEq]
        refine iff_of_false nofun ?_
        rintro ⟨rfl, hpass, -⟩
        exact hfilter hpass

/-- What is wrong with an entry. Nobody looks at the key of a record that the filter rejects. -/
inductive Damaged (codec : RecordCodec V) (filter : V → Bool) (e : Bytes × Bytes) : Trouble → Prop
  | value {detail : String} (hvalue : codec.decode e.2 = .error detail) :
    Damaged codec filter e (.recordBytes detail)
  | key {v : V} (hvalue : codec.decode e.2 = .ok v) (hfilter : filter v = true)
    (hkey : ¬ Uid.KeySpells e.1) : Damaged codec filter e (.recordKey e.1)

/-- No entry is damaged. -/
def Intact (codec : RecordCodec V) (filter : V → Bool) (entries : List (Bytes × Bytes)) : Prop :=
  ∀ e ∈ entries, ∀ what, ¬ Damaged codec filter e what

/-- An entry is damaged, holds a record that the filter rejects, or holds a row. -/
inductive Kind (codec : RecordCodec V) (filter : V → Bool) (e : Bytes × Bytes) : Prop
  | damaged (what : Trouble) (h : Damaged codec filter e what)
  | rejected (v : V) (hvalue : codec.decode e.2 = .ok v) (hfilter : filter v = false)
  | row (u : Uid) (v : V) (hvalue : codec.decode e.2 = .ok v) (hfilter : filter v = true)
    (hkey : Uid.ofKey? e.1 = some u)

theorem entry_kind (codec : RecordCodec V) (filter : V → Bool) (e : Bytes × Bytes) :
    Kind codec filter e := by
  cases hvalue : codec.decode e.2 with
  | error detail => exact .damaged _ (.value hvalue)
  | ok v =>
    cases hfilter : filter v with
    | false => exact .rejected v hvalue hfilter
    | true =>
      by_cases hkey : Uid.KeySpells e.1
      · obtain ⟨u, hu⟩ := Uid.keySpells_iff.1 hkey
        exact .row u v hvalue hfilter hu
      · exact .damaged _ (.key hvalue hfilter hkey)

section Collect

variable {e : Bytes × Bytes} {rest : List (Bytes × Bytes)} {v : V}

theorem collect_zero (entries : List (Bytes × Bytes)) : collect codec filter 0 entries = .ok [] := by
  rw [collect]

theorem collect_damaged {what : Trouble} (h : Damaged codec filter e what) (limit : Nat) :
    collect codec filter (limit + 1) (e :: rest) = .error (.internal what) := by
  obtain ⟨key, bytes⟩ := e
  cases h with
  | value hvalue => simp only [collect, hvalue]
  | key hvalue hfilter hkey =>
    have hnone : Uid.ofKey? key = none :=
      Option.eq_none_iff_forall_ne_some.2 fun u hu => hkey (Uid.keySpells_iff.2 ⟨u, hu⟩)
    simp only [collect, hvalue, hfilter, if_true, hnone]

theorem collect_rejected (hvalue : codec.decode e.2 = .ok v) (hfilter : filter v = false)
    (limit : Nat) : collect codec filter limit (e :: rest) = collect codec filter limit rest := by
  cases limit with
  | zero => rw [collect_zero, collect_zero]
  | succ limit =>
    simp only [collect, hvalue, hfilter, Bool.false_eq_true, if_false]

theorem collect_row {u : Uid} (hvalue : codec.decode e.2 = .ok v) (hfilter : filter v = true)
    (hkey : Uid.ofKey? e.1 = some u) (limit : Nat) :
    collect codec filter (limit + 1) (e :: rest)
      = (collect codec filter limit rest).map ((u, v) :: ·) := by
  simp only [collect, hvalue, hfilter, if_true, hkey]

theorem rows_rejected (hvalue : codec.decode e.2 = .ok v) (hfilter : filter v = false) :
    rows codec filter (e :: rest) = rows codec filter rest := by
  refine List.filterMap_cons_none (Option.eq_none_iff_forall_ne_some.2 fun row hrow => ?_)
  obtain ⟨hv, hpass, -⟩ := row?_eq_some_iff.1 hrow
  rw [hvalue] at hv
  rw [← Except.ok.inj hv, hfilter] at hpass
  cases hpass

theorem rows_row {u : Uid} (hvalue : codec.decode e.2 = .ok v) (hfilter : filter v = true)
    (hkey : Uid.ofKey? e.1 = some u) :
    rows codec filter (e :: rest) = (u, v) :: rows codec filter rest :=
  List.filterMap_cons_some
    (row?_eq_some_iff.2 ⟨hvalue, hfilter, Uid.ofKey?_eq_some_iff.1 hkey⟩)

end Collect

section Gathering

variable {before after : List (Bytes × Bytes)} {limit : Nat}

/-- Over intact entries a scan gathers their rows, and goes on for as many as are missing. -/
theorem collect_append (h : Intact codec filter before) (limit : Nat)
    (after : List (Bytes × Bytes)) :
    collect codec filter limit (before ++ after)
      = (collect codec filter (limit - (rows codec filter before).length) after).map
          ((rows codec filter before).take limit ++ ·) := by
  -- a rejected record takes nothing from the limit, a row takes one
  induction before generalizing limit with
  | nil =>
    have hnone : rows codec filter [] = [] := rfl
    rw [hnone, List.length_nil, Nat.sub_zero, List.take_nil, List.nil_append]
    cases collect codec filter limit after with
    | error fault => rfl
    | ok found => rfl
  | cons e before ih =>
    obtain ⟨hfirst, hrest⟩ := List.forall_mem_cons.1 h
    cases entry_kind codec filter e with
    | damaged what hwhat => exact absurd hwhat (hfirst what)
    | rejected v hvalue hfilter =>
      rw [List.cons_append, collect_rejected hvalue hfilter, rows_rejected hvalue hfilter, ih hrest]
    | row u v hvalue hfilter hkey =>
      rw [List.cons_append, rows_row hvalue hfilter hkey, List.length_cons]
      cases limit with
      | zero =>
        rw [collect_zero, Nat.zero_sub, collect_zero]
        rfl
      | succ limit =>
        rw [collect_row hvalue hfilter hkey, ih hrest, Nat.add_sub_add_right, List.take_succ_cons]
        cases collect codec filter (limit - (rows codec filter before).length) after with
        | error fault => rfl
        | ok found => rfl

theorem collect_of_enough (h : Intact codec filter before)
    (henough : limit ≤ (rows codec filter before).length) :
    collect codec filter limit (before ++ after) = .ok ((rows codec filter before).take limit) := by
  rw [collect_append h, Nat.sub_eq_zero_of_le henough, collect_zero]
  exact congrArg Except.ok (List.append_nil _)

theorem collect_of_intact (h : Intact codec filter before)
    (hfew : (rows codec filter before).length < limit) :
    collect codec filter limit before = .ok (rows codec filter before) := by
  have hcollect := collect_append h limit []
  have hend : ∀ limit, collect codec filter limit [] = .ok [] := fun limit => by
    cases limit with
    | zero => rfl
    | succ limit => rfl
  rw [List.append_nil, hend, List.take_of_length_le (Nat.le_of_lt hfew)] at hcollect
  rw [hcollect]
  exact congrArg Except.ok (List.append_nil _)

theorem collect_of_damaged {e : Bytes × Bytes} {what : Trouble} (h : Intact codec filter before)
    (hfew : (rows codec filter before).length < limit) (hwhat : Damaged codec filter e what) :
    collect codec filter limit (before ++ e :: after) = .error (.internal what) := by
  obtain ⟨missing, hmissing⟩ := Nat.exists_eq_add_of_lt hfew
  rw [collect_append h, show limit - (rows codec filter before).length = missing + 1 by omega,
    collect_damaged hwhat]
  rfl

/-- A record that the filter rejects might as well not be there, whatever its key is. -/
theorem collect_append_rejected {e : Bytes × Bytes} {v : V} (hvalue : codec.decode e.2 = .ok v)
    (hfilter : filter v = false) (limit : Nat) :
    collect codec filter limit (before ++ e :: after)
      = collect codec filter limit (before ++ after) := by
  induction before generalizing limit with
  | nil => exact collect_rejected hvalue hfilter limit
  | cons x before ih =>
    rw [List.cons_append, List.cons_append]
    cases limit with
    | zero => rw [collect_zero, collect_zero]
    | succ limit =>
      cases entry_kind codec filter x with
      | damaged what hwhat => rw [collect_damaged hwhat, collect_damaged hwhat]
      | rejected w hw hreject =>
        rw [collect_rejected hw hreject, collect_rejected hw hreject, ih]
      | row u w hw hpass hkey => rw [collect_row hw hpass hkey, collect_row hw hpass hkey, ih]

/-- Entries are intact up to the first that is damaged. -/
theorem exists_first_damaged {entries : List (Bytes × Bytes)} (h : ¬ Intact codec filter entries) :
    ∃ before e after what, entries = before ++ e :: after ∧ Intact codec filter before ∧
      Damaged codec filter e what := by
  induction entries with
  | nil => exact absurd nofun h
  | cons e rest ih =>
    by_cases he : ∃ what, Damaged codec filter e what
    · obtain ⟨what, hwhat⟩ := he
      exact ⟨[], e, rest, what, rfl, nofun, hwhat⟩
    · rw [not_exists] at he
      obtain ⟨before, bad, after, what, rfl, hbefore, hwhat⟩ :=
        ih fun hrest => h (List.forall_mem_cons.2 ⟨he, hrest⟩)
      exact ⟨e :: before, bad, after, what, rfl, List.forall_mem_cons.2 ⟨he, hbefore⟩, hwhat⟩

end Gathering

/-! ## Scans -/

/-- The entries that a scan passes, in its order: those strictly beyond the key of the identifier at
which it starts. -/
def passed (r : RecordStore V) (s : Scan Uid) : List (Bytes × Bytes) :=
  (match s.direction with
    | .ascending => r.tree.entries
    | .descending => r.tree.entries.reverse).filter fun e =>
      s.direction.beyond (s.startAfter.map Uid.toKey) e.1

/-- The tree without what is stored under a key. -/
def erase (r : RecordStore V) (key : Bytes) : RecordStore V :=
  { r with tree := r.tree.erase key }

variable {r : RecordStore V} {s : Scan Uid}

theorem scan_eq (r : RecordStore V) (filter : V → Bool) (s : Scan Uid) :
    r.scan filter s = collect r.codec filter s.limit (r.passed s) := by
  have hpassed : r.tree.beyond (s.startAfter.map Uid.toKey) s.direction = r.passed s := by
    have hahead := OrderedMap.ahead_eq r.tree (fun _ => true) s.direction
      (s.startAfter.map Uid.toKey)
    simp only [OrderedMap.ahead, OrderedMap.matching, List.filter_true] at hahead
    rw [hahead, passed]
    cases s.direction with
    | ascending => rfl
    | descending => rfl
  rw [scan, hpassed]

theorem nodup_keys_passed (r : RecordStore V) (s : Scan Uid) : ((r.passed s).map (·.1)).Nodup := by
  refine List.Nodup.sublist (List.filter_sublist.map _) ?_
  cases s.direction with
  | ascending => exact r.tree.nodup_keys
  | descending =>
    rw [List.map_reverse, List.nodup_reverse]
    exact r.tree.nodup_keys

/-- Without an entry that it passes, a scan passes the others. -/
theorem passed_erase {before after : List (Bytes × Bytes)} {e : Bytes × Bytes}
    (h : r.passed s = before ++ e :: after) : (r.erase e.1).passed s = before ++ after := by
  have hfilter : (r.erase e.1).passed s = (r.passed s).filter fun x => compare x.1 e.1 != .eq := by
    simp only [passed, erase, OrderedMap.erase]
    cases s.direction with
    | ascending => simp only [List.filter_filter, Bool.and_comm]
    | descending => simp only [List.filter_reverse, List.filter_filter, Bool.and_comm]
  have hkept : ∀ x : Bytes × Bytes, x.1 ≠ e.1 → (compare x.1 e.1 != .eq) = true := fun x hx =>
    bne_iff_ne.2 fun heq => hx (Std.LawfulEqCmp.eq_of_compare heq)
  have hnodup := r.nodup_keys_passed s
  rw [h, List.map_append, List.map_cons] at hnodup
  obtain ⟨-, hafter, hbefore⟩ := List.nodup_append.1 hnodup
  have hgone : (e :: after).filter (fun x => compare x.1 e.1 != .eq)
      = after.filter fun x => compare x.1 e.1 != .eq :=
    List.filter_cons_of_neg (by simp [Std.ReflCmp.compare_self])
  rw [hfilter, h, List.filter_append, hgone]
  congr 1
  · refine List.filter_eq_self.2 fun x hx => hkept x ?_
    exact hbefore x.1 (List.mem_map_of_mem hx) e.1 List.mem_cons_self
  · refine List.filter_eq_self.2 fun x hx => hkept x fun heq => ?_
    exact (List.nodup_cons.1 hafter).1 (heq ▸ List.mem_map_of_mem hx)

/-- Enough rows for a scan come before the first damaged entry. -/
def Suffices (codec : RecordCodec V) (filter : V → Bool) (limit : Nat)
    (entries : List (Bytes × Bytes)) : Prop :=
  ∃ before after, entries = before ++ after ∧ Intact codec filter before ∧
    limit ≤ (rows codec filter before).length

/-- Whatever bytes a tree holds, a scan of it is answered by its first damaged entry, if there are
not enough rows before it. Otherwise it is answered by as many rows as it asks for, or by all of
them. What the filter rejects and what lies beyond the last row needed might as well not be
there. -/
theorem scan_answers_up_to_damage (r : RecordStore V) (filter : V → Bool) (s : Scan Uid) :
    let entries := r.passed s
    (∀ e u v, row? r.codec filter e = some (u, v) ↔
      r.codec.decode e.2 = .ok v ∧ filter v = true ∧ e.1.length = 8 ∧
        e.1.value = u.raw.toNat) ∧
    (Suffices r.codec filter s.limit entries →
      r.scan filter s = .ok ((rows r.codec filter entries).take s.limit)) ∧
    (Intact r.codec filter entries → (rows r.codec filter entries).length < s.limit →
      r.scan filter s = .ok (rows r.codec filter entries)) ∧
    (¬ Suffices r.codec filter s.limit entries → ¬ Intact r.codec filter entries →
      ∃ before e after what, entries = before ++ e :: after ∧ Intact r.codec filter before ∧
        Damaged r.codec filter e what ∧ r.scan filter s = .error (.internal what)) ∧
    (s.limit = 0 → r.scan filter s = .ok []) ∧
    (∀ e ∈ entries, (∃ v, r.codec.decode e.2 = .ok v ∧ filter v = false) →
      (r.erase e.1).scan filter s = r.scan filter s) ∧
    (∀ before after, entries = before ++ after → Intact r.codec filter before →
      s.limit ≤ (rows r.codec filter before).length →
      ∀ e ∈ after, (r.erase e.1).scan filter s = r.scan filter s) := by
  intro entries
  have hscan : r.scan filter s = collect r.codec filter s.limit entries := r.scan_eq filter s
  have herased : ∀ before e after, entries = before ++ e :: after →
      (r.erase e.1).scan filter s = collect r.codec filter s.limit (before ++ after) := by
    intro before e after h
    rw [scan_eq, passed_erase h]
    rfl
  refine ⟨fun _ _ _ => row?_eq_some_iff, ?enough, ?intact, ?damaged, ?nothing, ?rejected, ?beyond⟩
  case enough =>
    rintro ⟨before, after, hentries, hbefore, henough⟩
    have hrows : rows r.codec filter entries
        = rows r.codec filter before ++ rows r.codec filter after := by
      rw [hentries]
      exact List.filterMap_append
    rw [hrows, List.take_append_of_le_length henough, hscan, hentries]
    exact collect_of_enough hbefore henough
  case intact =>
    intro hintact hfew
    rw [hscan]
    exact collect_of_intact hintact hfew
  case damaged =>
    intro hlacking hdamaged
    obtain ⟨before, e, after, what, hentries, hbefore, hwhat⟩ := exists_first_damaged hdamaged
    have hfew : (rows r.codec filter before).length < s.limit :=
      Nat.lt_of_not_le fun henough => hlacking ⟨before, e :: after, hentries, hbefore, henough⟩
    refine ⟨before, e, after, what, hentries, hbefore, hwhat, ?_⟩
    rw [hscan, hentries]
    exact collect_of_damaged hbefore hfew hwhat
  case nothing =>
    intro hlimit
    rw [hscan, hlimit, collect_zero]
  case rejected =>
    rintro e he ⟨v, hvalue, hfilter⟩
    obtain ⟨before, after, hentries⟩ := List.append_of_mem he
    rw [herased before e after hentries, hscan, hentries, collect_append_rejected hvalue hfilter]
  case beyond =>
    intro before after hentries hbefore henough e he
    obtain ⟨near, far, rfl⟩ := List.append_of_mem he
    have hfound : ∀ far, collect r.codec filter s.limit (before ++ far)
        = .ok ((rows r.codec filter before).take s.limit) := fun _ =>
      collect_of_enough hbefore henough
    have hsplit : entries = (before ++ near) ++ e :: far := by rw [hentries, List.append_assoc]
    rw [herased _ e far hsplit, List.append_assoc, hfound, hscan, hentries, hfound]

end RecordStore

end Chronicle
