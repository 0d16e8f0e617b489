-- SUMMARY: Turning back after a page leads to the page one came from.
import Chronicle.Proofs.Page.Walk

/-!
# Turning back

A page and the page after it are read in one direction, and then a page is read against it, from
where the second one began. The matching rows are those behind the start of the first page, then
its own, then those of the second one and what lies beyond. Read backwards from the second page
they begin with the rows of the first.
-/

namespace Chronicle

variable {K V T : Type}

/-! ## Rows behind a key -/

namespace OrderedMap

variable [Ord K] [Std.TransOrd K] {m : OrderedMap K V} {filter : V → Bool} {d : Direction}

/-- If whatever comes after an element that is kept is kept as well, a filter cuts off a
beginning. -/
theorem exists_append_filter {α : Type} {R : α → α → Prop} {kept : α → Bool} {l : List α}
    (hl : l.Pairwise R) (hkept : ∀ a b, R a b → kept a = true → kept b = true) :
    ∃ cut, l = cut ++ l.filter kept := by
  induction l with
  | nil => exact ⟨[], rfl⟩
  | cons a l ih =>
    obtain ⟨ha, hl⟩ := List.pairwise_cons.1 hl
    by_cases h : kept a = true
    · have hall : (a :: l).filter kept = a :: l := by
        refine List.filter_eq_self.2 fun b hb => ?_
        rcases List.mem_cons.1 hb with rfl | hb
        · exact h
        · exact hkept a b (ha b hb) h
      exact ⟨[], hall.symm⟩
    · obtain ⟨cut, hcut⟩ := ih hl
      refine ⟨a :: cut, ?_⟩
      rw [List.filter_cons_of_neg h, List.cons_append, ← hcut]

/-- The matching rows end with those that lie beyond a key. -/
theorem exists_behind (m : OrderedMap K V) (filter : V → Bool) (d : Direction)
    (start : Option K) : ∃ behind, m.matching filter d = behind ++ m.ahead filter d start := by
  rw [ahead_eq]
  refine exists_append_filter pairwise_matching fun a b hab ha => ?_
  cases start with
  | none => rfl
  | some k => exact Direction.precedes_trans ha hab

/-- Read backwards from one of its rows, a map shows the rows before it, the last one first. -/
theorem ahead_reverse {before after : List (K × V)} {e : K × V}
    (h : m.matching filter d = before ++ e :: after) :
    m.ahead filter d.reverse (some e.1) = before.reverse := by
  have hsorted : (m.matching filter d).Pairwise fun a b => d.precedes a.1 b.1 :=
    pairwise_matching
  rw [h] at hsorted
  obtain ⟨-, hafter, hbefore⟩ := List.pairwise_append.1 hsorted
  have hkept : before.filter (fun x => d.precedes x.1 e.1) = before :=
    List.filter_eq_self.2 fun x hx => hbefore x hx e List.mem_cons_self
  have hdropped : (e :: after).filter (fun x => d.precedes x.1 e.1) = [] := by
    refine List.filter_eq_nil_iff.2 fun x hx hback => ?_
    have hself : d.precedes e.1 e.1 = true := by
      rcases List.mem_cons.1 hx with rfl | hx
      · exact hback
      · exact Direction.precedes_trans (List.rel_of_pairwise_cons hafter hx) hback
    rw [Direction.precedes_irrefl] at hself
    cases hself
  calc m.ahead filter d.reverse (some e.1)
    _ = (before ++ e :: after).reverse.filter fun x => d.precedes x.1 e.1 := by
        simp only [ahead_eq, matching_reverse, h, Direction.beyond, Option.all_some,
          Direction.precedes_reverse]
    _ = before.reverse := by
        rw [List.filter_reverse, List.filter_append, hkept, hdropped, List.append_nil]

/-- Some row comes before a row exactly if there are rows before it. -/
theorem ne_nil_iff_exists_precedes {before after : List (K × V)} {e : K × V}
    (h : m.matching filter d = before ++ e :: after) :
    before ≠ [] ↔ ∃ x ∈ m.entries, filter x.2 = true ∧ d.precedes x.1 e.1 = true := by
  have hahead : ∀ x, x ∈ before ↔ (x ∈ m.entries ∧ filter x.2 = true) ∧ d.precedes x.1 e.1 = true := by
    intro x
    rw [← List.mem_reverse, ← ahead_reverse h, mem_ahead, Direction.beyond, Option.all_some,
      Direction.precedes_reverse]
  constructor
  · intro hne
    obtain ⟨x, hx⟩ := List.exists_mem_of_ne_nil before hne
    obtain ⟨⟨hmem, hfilter⟩, hprecedes⟩ := (hahead x).1 hx
    exact ⟨x, hmem, hfilter, hprecedes⟩
  · rintro ⟨x, hmem, hfilter, hprecedes⟩
    exact List.ne_nil_of_mem ((hahead x).2 ⟨⟨hmem, hfilter⟩, hprecedes⟩)

end OrderedMap

namespace Page

/-! ## Legs -/

namespace Leg

/-- The key at which a leg begins. -/
def entry (leg : Leg K V) : Option K :=
  leg.rows.head?.map (·.1)

variable [Ord K] [Std.TransOrd K] {m : OrderedMap K V} {filter : V → Bool} {heading : Direction}
  {limit : Nat} {start : Option K}

/-- After a leg with more beyond it, the next one has rows. Read backwards from there, a leg shows
the rows of the first one, and there is more beyond it if some matching row comes before them. -/
theorem read_back (hlimit : 0 < limit)
    (hmore : (read m filter heading limit start).more = true) :
    let leg := read m filter heading limit start
    let next := read m filter heading limit leg.stop
    let back := read m filter heading.reverse limit next.entry
    next.rows ≠ [] ∧ back.rows = leg.rows.reverse ∧
      ∃ k, leg.entry = some k ∧
        (back.more = true ↔ ∃ e ∈ m.entries, filter e.2 = true ∧ heading.precedes e.1 k = true) := by
  intro leg next back
  have hlength : limit < (m.ahead filter heading start).length := of_decide_eq_true hmore
  have hrows : leg.rows ≠ [] := rows_ne_nil hlimit hmore
  have hfull : leg.rows.length = limit := List.length_take_of_le (Nat.le_of_lt hlength)
  obtain ⟨first, rest, hleg⟩ := List.exists_cons_of_ne_nil hrows
  obtain ⟨e, after, hdrop⟩ : ∃ e after, (m.ahead filter heading start).drop limit = e :: after := by
    refine List.exists_cons_of_ne_nil fun hnil => ?_
    have hle := List.drop_eq_nil_iff.1 hnil
    omega
  have hnext : next.rows = e :: after.take (limit - 1) := by
    have hstop : next.rows = ((m.ahead filter heading start).drop limit).take limit :=
      congrArg (List.take limit) (ahead_stop hrows)
    rw [hstop, hdrop, List.take_cons hlimit]
  -- the rows behind the start, those of the first leg, and those from the second one on
  obtain ⟨behind, hbehind⟩ := m.exists_behind filter heading start
  have hsplit : m.matching filter heading = (behind ++ leg.rows) ++ e :: after := by
    rw [hbehind, List.append_assoc, ← hdrop]
    exact congrArg _ (List.take_append_drop limit _).symm
  have hahead : m.ahead filter heading.reverse next.entry = leg.rows.reverse ++ behind.reverse := by
    rw [entry, hnext, List.head?_cons, Option.map_some, OrderedMap.ahead_reverse hsplit,
      List.reverse_append]
  refine ⟨?next, ?back, first.1, ?entry, ?more⟩
  case next => rw [hnext]; exact List.cons_ne_nil _ _
  case back =>
    have hback : back.rows = (leg.rows.reverse ++ behind.reverse).take limit :=
      congrArg (List.take limit) hahead
    rw [hback, List.take_left' (by rw [List.length_reverse, hfull])]
  case entry => rw [entry, hleg]; rfl
  case more =>
    have hback : back.more = true ↔ limit < (leg.rows.reverse ++ behind.reverse).length := by
      rw [← hahead]
      exact decide_eq_true_iff
    rw [hleg, List.append_assoc] at hsplit
    rw [hback, ← OrderedMap.ne_nil_iff_exists_precedes hsplit, ← List.length_pos_iff]
    simp only [List.length_append, List.length_reverse]
    omega

end Leg

/-! ## Pages -/

namespace Anchor

/-- The request for a page at an anchor. -/
def query (a : Anchor) (limit : Int64) : Query :=
  match a with
  | .after cursor => .ofAfter cursor limit
  | .before cursor => .ofBefore cursor limit

/-- The anchor at which to turn back from a page: its first row after a page that was asked for in
the order of display, and its last row otherwise. -/
def turned (a : Anchor) (info : Info) : Anchor :=
  match a with
  | .after _ => .before info.firstCursor
  | .before _ => .after info.lastCursor

variable {o : Options (V → Bool) K} {a : Anchor} {codec : CursorCodec K} {make : V → T}

@[simp] theorem anchor?_query (a : Anchor) (limit : Int64) : (a.query limit).anchor? = some a := by
  cases a <;> rfl

@[simp] theorem limit_query (a : Anchor) (limit : Int64) : (a.query limit).limit = limit := by
  cases a <;> rfl

theorem scanOrder_turned (info : Info) :
    o.scanOrder (a.turned info) = (o.scanOrder a).reverse := by
  cases a with
  | after => rfl
  | before => exact (Direction.reverse_reverse _).symm

theorem turn_turned_reverse {α : Type} (info : Info) (rows : List α) :
    (a.turned info).turn rows.reverse = a.turn rows := by
  cases a with
  | after => exact List.reverse_reverse rows
  | before => rfl

/-- A leg with the rows of another in the opposite order is shown as that one is. -/
theorem page_turned {leg back : Leg K V} (h : back.rows = leg.rows.reverse) (info : Info) :
    back.page codec (a.turned info) make = ofRows codec make back.more (a.turn leg.rows) := by
  rw [Leg.page, h, turn_turned_reverse]

theorem length_items_page (leg : Leg K V) :
    (leg.page codec a make).items.length = leg.rows.length := by
  rw [Leg.page, ofRows, List.length_map, length_turn]

/-- The anchor at which to turn back is at the key at which the leg of the page begins. -/
theorem cursor_turned {leg : Leg K V} {k : K} (h : leg.entry = some k) :
    (a.turned (leg.page codec a make).info).cursor = codec.toCursor k := by
  obtain ⟨e, he, rfl⟩ := Option.map_eq_some_iff.1 h
  cases a with
  | after =>
    simp only [turned, cursor, Leg.page, ofRows, turn, he, Option.map_some, Option.getD_some]
  | before =>
    simp only [turned, cursor, Leg.page, ofRows, turn, List.getLast?_reverse, he, Option.map_some,
      Option.getD_some]

end Anchor

/-- A page at an anchor shows the leg from the key of the anchor on. -/
theorem find_query [Ord K] {o : Options (V → Bool) K} {a : Anchor} {start : Option K}
    {limit : Int64} (m : OrderedMap K V) (make : V → T) (hlimit : 0 < limit)
    (hstart : startKey o.codec a.cursor = .ok start) :
    find (a.query limit) m.source o (fun v => pure (make v))
      = pure ((Leg.read m o.filter (o.scanOrder a) limit.toNatClampNeg start).page o.codec a
          make) := by
  have hfind := find_source (q := a.query limit) m make (a.anchor?_query limit)
    (by rwa [a.limit_query]) hstart
  rw [a.limit_query] at hfind
  exact hfind

/-- A page has more beyond it, in either direction and from any key or the edge of the order. Then
the page that comes next is not empty, and turning back from it gives the page one came from: the
same items and the same cursors. There is more beyond that one if some matching row comes, in the
direction of the first two pages, before the row at which the first of them begins. -/
theorem turning_back_shows_page (m : OrderedMap Uid V) (filter : V → Bool) (descending : Bool)
    (make : V → T) {a : Anchor} {start : Option Uid} {limit : Int64} (hlimit : 0 < limit)
    (hstart : startKey .uid a.cursor = .ok start) :
    let o : Options (V → Bool) Uid := ⟨filter, descending, .uid⟩
    let page := fun a : Anchor => find (a.query limit) m.source o fun v => pure (make v)
    ∃ p, page a = pure p ∧ (p.info.hasNext = true →
      ∃ next, page (a.moved p.info) = pure next ∧ next.items ≠ [] ∧
        ∃ back, page (a.turned next.info) = pure back ∧ back.items = p.items ∧
          back.info.firstCursor = p.info.firstCursor ∧ back.info.lastCursor = p.info.lastCursor ∧
          ∃ k, (a.turned p.info).cursor = k.toDisplay ∧
            (back.info.hasNext = true ↔
              ∃ e ∈ m.entries, filter e.2 = true ∧ (o.scanOrder a).precedes e.1 k = true)) := by
  intro o page
  let n := limit.toNatClampNeg
  let leg := Leg.read m filter (o.scanOrder a) n start
  refine ⟨leg.page .uid a make, find_query m make hlimit hstart, fun hmore => ?_⟩
  have hlimit' : 0 < n := toNatClampNeg_pos hlimit
  let next := Leg.read m filter (o.scanOrder a) n leg.stop
  let back := Leg.read m filter (o.scanOrder a).reverse n next.entry
  obtain ⟨hnext, hback, k, hk, hmore'⟩ : next.rows ≠ [] ∧ back.rows = leg.rows.reverse ∧
      ∃ k, leg.entry = some k ∧ (back.more = true ↔
        ∃ e ∈ m.entries, filter e.2 = true ∧ (o.scanOrder a).precedes e.1 k = true) :=
    Leg.read_back hlimit' hmore
  -- the cursors lead on from the stop of the first leg and back from the entry of the second
  have hstop : startKey .uid (a.moved (leg.page .uid a make).info).cursor = .ok leg.stop := by
    obtain ⟨stop, hstop⟩ := Leg.exists_stop (Leg.rows_ne_nil hlimit' hmore)
    rw [cursor_moved hstop, startKey_uid, hstop]
  have hentry : startKey .uid (a.turned (next.page .uid a make).info).cursor = .ok next.entry := by
    obtain ⟨e, rest, hrows⟩ := List.exists_cons_of_ne_nil hnext
    have hentry : next.entry = some e.1 := by
      rw [Leg.entry, hrows]
      rfl
    rw [Anchor.cursor_turned hentry, startKey_uid, hentry]
  have hpageNext : page (a.moved (leg.page .uid a make).info) = pure (next.page .uid a make) := by
    have hfind := find_query (o := o) m make hlimit hstop
    rwa [scanOrder_moved, page_moved] at hfind
  have hpageBack : page (a.turned (next.page .uid a make).info)
      = pure (ofRows .uid make back.more (a.turn leg.rows)) := by
    have hfind := find_query (o := o) m make hlimit hentry
    rw [Anchor.scanOrder_turned] at hfind
    exact hfind.trans (congrArg pure (Anchor.page_turned hback _))
  refine ⟨_, hpageNext, ?_, _, hpageBack, rfl, rfl, rfl, k, Anchor.cursor_turned hk, hmore'⟩
  intro hnil
  have hlength : (next.page .uid a make).items.length = next.rows.length :=
    Anchor.length_items_page next
  rw [hnil] at hlength
  exact hnext (List.length_eq_zero_iff.1 hlength.symm)

/-- Pages of one row, in descending order and before a cursor. The row under `v` does not pass the
filter, and one row comes after the page to which turning back leads. -/
theorem turning_back_shows_page_before :
    let u : Uid := ⟨300000, by decide, by decide⟩
    let v : Uid := ⟨400000, by decide, by decide⟩
    let w : Uid := ⟨500000, by decide, by decide⟩
    let x : Uid := ⟨600000, by decide, by decide⟩
    let m : OrderedMap Uid String := ⟨[(u, "u"), (v, ""), (w, "w"), (x, "x")], by decide⟩
    let o : Options (String → Bool) Uid := ⟨(· ≠ ""), true, .uid⟩
    let page := fun q : Query => find q m.source o fun text => pure text
    (0 : Int64) < 1 ∧ startKey .uid u.toDisplay = .ok (some u) ∧
      ∃ p next back, page (.ofBefore u.toDisplay 1) = pure p ∧ p.items = ["w"] ∧
        page (.ofBefore p.info.firstCursor 1) = pure next ∧ next.items ≠ [] ∧
        page (.ofAfter next.info.lastCursor 1) = pure back ∧ back.items = ["w"] ∧
        back.info.hasNext = true := by
  intro u v w x m o page
  have hlimit : (0 : Int64) < 1 := by decide
  have hstart : startKey .uid u.toDisplay = .ok (some u) := startKey_uid u
  obtain ⟨p, hp, hreturn⟩ := turning_back_shows_page m (· ≠ "") true (fun text => text)
    (a := .before u.toDisplay) hlimit hstart
  have hshown : pure p = pure _ := hp.symm.trans
    (find_query (o := o) (a := .before u.toDisplay) m (fun text => text) hlimit hstart)
  obtain rfl := Except.ok.inj hshown
  obtain ⟨next, hnext, hitems, back, hback, hsame, -, -, k, hk, hmore⟩ := hreturn rfl
  have hw : some k = some w := by
    rw [← k.ofDisplay?_toDisplay, ← w.ofDisplay?_toDisplay]
    exact congrArg Uid.ofDisplay? (hk.symm.trans (Anchor.cursor_turned rfl))
  obtain rfl := Option.some.inj hw
  refine ⟨hlimit, hstart, _, next, back, hp, rfl, hnext, hitems, hback, hsame, ?_⟩
  rw [hmore]
  exact ⟨(u, "u"), by decide⟩

end Page

end Chronicle
