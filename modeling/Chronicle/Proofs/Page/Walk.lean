-- SUMMARY: Walks over a map that changes: no row is shown twice, and none that stays is missed.
import Chronicle.Page.Walk
import Chronicle.Proofs.Page.Rows
import Chronicle.Proofs.Uid.Display

/-!
# Walks over a changing map

A walk is followed by its rows. Every page is a leg: the first matching rows beyond the key at
which the leg before it stopped, in the order in which the walk moves. The rows of a leg lie
strictly beyond all rows shown before, so none comes twice. A row beyond the start of a leg is
either shown on it or beyond its stop, so none that stays in the map is missed. The map may be
another one at every page.
-/

namespace Chronicle.Page

variable {K V T : Type}

/-! ## Legs -/

/-- A page of a walk by its rows. -/
structure Leg (K V : Type) where
  /-- The rows shown, in the order in which the walk moves. -/
  rows : List (K × V)
  /-- There are more rows beyond them. -/
  more : Bool

namespace Leg

/-- The leg from a key, or from the edge of the order. -/
def read [Ord K] (m : OrderedMap K V) (filter : V → Bool) (heading : Direction) (limit : Nat)
    (start : Option K) : Leg K V :=
  let ahead := m.ahead filter heading start
  ⟨ahead.take limit, limit < ahead.length⟩

/-- The key at which a leg stops. -/
def stop (leg : Leg K V) : Option K :=
  leg.rows.getLast?.map (·.1)

/-- All rows of legs. -/
def all (legs : List (Leg K V)) : List (K × V) :=
  legs.flatMap rows

end Leg

/-- The legs of a walk, from leg number `n` on. Map and limit may differ from leg to leg. -/
def tour [Ord K] (stores : Nat → OrderedMap K V) (limits : Nat → Nat) (filter : V → Bool)
    (heading : Direction) : (bound n : Nat) → (start : Option K) → List (Leg K V)
  | 0, _, _ => []
  | bound + 1, n, start =>
    let leg := Leg.read (stores n) filter heading (limits n) start
    leg :: if leg.more then tour stores limits filter heading bound (n + 1) leg.stop else []

/-! ## One leg -/

namespace Leg

theorem exists_stop {leg : Leg K V} (hrows : leg.rows ≠ []) : ∃ k, leg.stop = some k :=
  ⟨_, congrArg (Option.map _) (List.getLast?_eq_some_getLast hrows)⟩

variable [Ord K] {m : OrderedMap K V} {filter : V → Bool} {heading : Direction} {limit : Nat}
  {start : Option K}

theorem rows_ne_nil (hlimit : 0 < limit)
    (hmore : (read m filter heading limit start).more = true) :
    (read m filter heading limit start).rows ≠ [] := by
  have hlength : limit < (m.ahead filter heading start).length := of_decide_eq_true hmore
  intro hnil
  have hzero := congrArg List.length hnil
  simp only [read, List.length_take, List.length_nil] at hzero
  omega

variable [Std.TransOrd K]

theorem mem_read {e : K × V} (h : e ∈ (read m filter heading limit start).rows) :
    e ∈ m.entries ∧ filter e.2 = true ∧ heading.beyond start e.1 = true := by
  obtain ⟨⟨hmem, hfilter⟩, hstart⟩ := OrderedMap.mem_ahead.1 (List.mem_of_mem_take h)
  exact ⟨hmem, hfilter, hstart⟩

theorem pairwise_read :
    (read m filter heading limit start).rows.Pairwise fun a b => heading.precedes a.1 b.1 :=
  OrderedMap.pairwise_ahead.take

/-- The rows of a leg come before every key beyond its stop. -/
theorem precedes_of_stop {e : K × V} (h : e ∈ (read m filter heading limit start).rows) {k : K}
    (hk : heading.beyond (read m filter heading limit start).stop k = true) :
    heading.precedes e.1 k = true := by
  have hsorted : (read m filter heading limit start).rows.Pairwise _ := pairwise_read
  rw [Direction.beyond, stop] at hk
  generalize (read m filter heading limit start).rows = rows at h hk hsorted
  obtain ⟨init, last, rfl⟩ : ∃ init last, rows = init ++ [last] :=
    ⟨_, _, (List.dropLast_concat_getLast (List.ne_nil_of_mem h)).symm⟩
  rw [List.getLast?_concat, Option.map_some, Option.all_some] at hk
  rcases List.mem_append.1 h with hinit | hlast
  · have hle := (List.pairwise_append.1 hsorted).2.2 e hinit last List.mem_cons_self
    exact Direction.precedes_trans hle hk
  · rw [List.mem_singleton.1 hlast]
    exact hk

/-- What lies beyond the stop of a leg lies beyond its start, unless the leg has no rows. -/
theorem start_of_stop (hrows : (read m filter heading limit start).rows ≠ []) {k : K}
    (hk : heading.beyond (read m filter heading limit start).stop k = true) :
    heading.beyond start k = true := by
  obtain ⟨stop, hstop⟩ := exists_stop hrows
  obtain ⟨e, he, -⟩ := Option.map_eq_some_iff.1 hstop
  have he := List.mem_of_getLast? he
  have hek := precedes_of_stop he hk
  have hse := (mem_read he).2.2
  cases start with
  | none => rfl
  | some s => exact Direction.precedes_trans hse hek

/-- The rows that a leg leaves lie beyond its stop. -/
theorem stop_of_mem_drop {e : K × V} (h : e ∈ (m.ahead filter heading start).drop limit) :
    heading.beyond (read m filter heading limit start).stop e.1 = true := by
  have hsorted : (m.ahead filter heading start).Pairwise _ := OrderedMap.pairwise_ahead
  rw [← List.take_append_drop limit (m.ahead filter heading start)] at hsorted
  simp only [read, stop]
  cases hlast : ((m.ahead filter heading start).take limit).getLast? with
  | none => rfl
  | some last => exact (List.pairwise_append.1 hsorted).2.2 last (List.mem_of_getLast? hlast) e h

/-- A matching row beyond the start of a leg is on the leg or beyond its stop, and in the second
case there is more beyond the leg. -/
theorem mem_or_beyond (limit : Nat) {e : K × V} (hmem : e ∈ m.entries) (hfilter : filter e.2 = true)
    (hstart : heading.beyond start e.1 = true) :
    e ∈ (read m filter heading limit start).rows ∨
      (read m filter heading limit start).more = true ∧
        heading.beyond (read m filter heading limit start).stop e.1 = true := by
  have hahead : e ∈ m.ahead filter heading start :=
    OrderedMap.mem_ahead.2 ⟨⟨hmem, hfilter⟩, hstart⟩
  rw [← List.take_append_drop limit (m.ahead filter heading start)] at hahead
  rcases List.mem_append.1 hahead with htake | hdrop
  · exact .inl htake
  · have hlt := List.length_pos_of_mem hdrop
    rw [List.length_drop] at hlt
    exact .inr ⟨decide_eq_true (by omega), stop_of_mem_drop hdrop⟩

/-- Beyond the stop of a leg lies what lies beyond its start, without the rows of the leg. -/
theorem ahead_stop (hrows : (read m filter heading limit start).rows ≠ []) :
    m.ahead filter heading (read m filter heading limit start).stop
      = (m.ahead filter heading start).drop limit := by
  -- what lies beyond the stop lies beyond the start, so it is cut from the same rows
  have hsplit : m.ahead filter heading (read m filter heading limit start).stop
      = (m.ahead filter heading start).filter
          fun e => heading.beyond (read m filter heading limit start).stop e.1 := by
    rw [OrderedMap.ahead_eq, OrderedMap.ahead_eq, List.filter_filter]
    refine List.filter_congr fun e _ => ?_
    rw [Bool.eq_iff_iff, Bool.and_eq_true]
    exact ⟨fun h => ⟨h, start_of_stop hrows h⟩, And.left⟩
  have hshown : ((m.ahead filter heading start).take limit).filter
      (fun e => heading.beyond (read m filter heading limit start).stop e.1) = [] := by
    rw [List.filter_eq_nil_iff]
    intro e he hstop
    have hself := precedes_of_stop he hstop
    rw [Direction.precedes_irrefl] at hself
    cases hself
  have hleft : ((m.ahead filter heading start).drop limit).filter
      (fun e => heading.beyond (read m filter heading limit start).stop e.1)
        = (m.ahead filter heading start).drop limit :=
    List.filter_eq_self.2 fun e he => stop_of_mem_drop he
  calc m.ahead filter heading (read m filter heading limit start).stop
    _ = ((m.ahead filter heading start).take limit
          ++ (m.ahead filter heading start).drop limit).filter
          fun e => heading.beyond (read m filter heading limit start).stop e.1 := by
        rw [List.take_append_drop, hsplit]
    _ = (m.ahead filter heading start).drop limit := by
        rw [List.filter_append, hshown, hleft, List.nil_append]

end Leg

/-! ## Whole tours -/

section Tour

/-- The last leg has none beyond it. -/
def Leg.Ended (legs : List (Leg K V)) : Prop :=
  ∃ leg, legs.getLast? = some leg ∧ leg.more = false

theorem Leg.Ended.of_cons {leg : Leg K V} {rest : List (Leg K V)} (h : Ended (leg :: rest))
    (hmore : leg.more = true) : Ended rest := by
  obtain ⟨last, hlast, hend⟩ := h
  cases rest with
  | nil =>
    obtain rfl : leg = last := Option.some.inj hlast
    rw [hmore] at hend
    cases hend
  | cons next rest => exact ⟨last, hlast, hend⟩

theorem Leg.Ended.cons {leg : Leg K V} {rest : List (Leg K V)} (h : Ended rest) :
    Ended (leg :: rest) := by
  obtain ⟨last, hlast, hend⟩ := h
  cases rest with
  | nil => cases hlast
  | cons next rest => exact ⟨last, hlast, hend⟩

variable [Ord K] [Std.TransOrd K] {stores : Nat → OrderedMap K V} {limits : Nat → Nat}
  {filter : V → Bool} {heading : Direction}

/-- Each row of a tour was in the map, and passed the filter, when its leg was read. -/
theorem mem_tour {bound n i : Nat} {start : Option K} {leg : Leg K V} {e : K × V}
    (hleg : (tour stores limits filter heading bound n start)[i]? = some leg) (he : e ∈ leg.rows) :
    e ∈ (stores (n + i)).entries ∧ filter e.2 = true := by
  induction bound generalizing n i start with
  | zero => cases hleg
  | succ bound ih =>
    rw [tour] at hleg
    cases i with
    | zero =>
      cases hleg
      have hmem := Leg.mem_read he
      exact ⟨hmem.1, hmem.2.1⟩
    | succ i =>
      rw [List.getElem?_cons_succ] at hleg
      split at hleg
      next hmore =>
        rw [show n + (i + 1) = n + 1 + i by omega]
        exact ih hleg
      next => cases hleg

theorem start_of_mem_tour (hlimits : ∀ n, 0 < limits n) {bound n : Nat} {start : Option K}
    {e : K × V} (he : e ∈ Leg.all (tour stores limits filter heading bound n start)) :
    heading.beyond start e.1 = true := by
  induction bound generalizing n start with
  | zero => cases he
  | succ bound ih =>
    rw [tour, Leg.all, List.flatMap_cons] at he
    rcases List.mem_append.1 he with hread | hrest
    · exact (Leg.mem_read hread).2.2
    · split at hrest
      next hmore => exact Leg.start_of_stop (Leg.rows_ne_nil (hlimits n) hmore) (ih hrest)
      next => cases hrest

/-- Along a tour the keys move strictly on. -/
theorem pairwise_tour (hlimits : ∀ n, 0 < limits n) (bound n : Nat) (start : Option K) :
    (Leg.all (tour stores limits filter heading bound n start)).Pairwise
      fun a b => heading.precedes a.1 b.1 = true := by
  induction bound generalizing n start with
  | zero => exact .nil
  | succ bound ih =>
    rw [tour, Leg.all, List.flatMap_cons]
    refine List.pairwise_append.2 ⟨Leg.pairwise_read, ?_, ?_⟩
    · split
      next => exact ih _ _
      next => exact .nil
    · intro a ha b hb
      split at hb
      next => exact Leg.precedes_of_stop ha (start_of_mem_tour hlimits hb)
      next => cases hb

/-- A key that has a matching row at every leg of a tour that ended is on the tour, if it lies
beyond the start. -/
theorem mem_tour_of_stays {bound n : Nat} {start : Option K} {k : K}
    (hend : Leg.Ended (tour stores limits filter heading bound n start))
    (hstart : heading.beyond start k = true)
    (hstays : ∀ i < (tour stores limits filter heading bound n start).length,
      ∃ v, (k, v) ∈ (stores (n + i)).entries ∧ filter v = true) :
    k ∈ (Leg.all (tour stores limits filter heading bound n start)).map (·.1) := by
  induction bound generalizing n start with
  | zero => obtain ⟨leg, hleg, -⟩ := hend; cases hleg
  | succ bound ih =>
    rw [tour] at hend hstays ⊢
    rw [Leg.all, List.flatMap_cons, List.map_append, List.mem_append]
    obtain ⟨v, hmem, hv⟩ := hstays 0 (Nat.succ_pos _)
    rcases Leg.mem_or_beyond (m := stores n) (limits n) hmem hv hstart with
      hread | ⟨hmore, hstop⟩
    · exact .inl (List.mem_map.2 ⟨(k, v), hread, rfl⟩)
    · -- passed over on this leg, the key lies beyond its stop, where the next leg starts
      refine .inr ?_
      rw [if_pos hmore] at hend hstays ⊢
      refine ih (hend.of_cons hmore) hstop ?_
      intro i hi
      have h := hstays (i + 1) (Nat.succ_lt_succ hi)
      rwa [Nat.add_comm i 1, ← Nat.add_assoc] at h

/-! ## Tours over a map that stays the same -/

/-- Number of pages that show some number of rows, at most `limit` to a page: their quotient,
rounded up, but at least one. -/
def pageCount (rows limit : Nat) : Nat :=
  max 1 ((rows + limit - 1) / limit)

theorem pageCount_of_le {rows limit : Nat} (h : rows ≤ limit) : pageCount rows limit = 1 := by
  have hquotient : (rows + limit - 1) / limit < 2 := by
    cases limit with
    | zero => simp
    | succ limit => exact Nat.div_lt_of_lt_mul (by omega)
  rw [pageCount]
  omega

theorem pageCount_of_lt {rows limit : Nat} (hlimit : 0 < limit) (h : limit < rows) :
    pageCount rows limit = pageCount (rows - limit) limit + 1 := by
  have hquotient : (rows + limit - 1) / limit = (rows - limit + limit - 1) / limit + 1 := by
    rw [← Nat.add_div_right _ hlimit]
    congr 1
    omega
  have hpos : 0 < (rows - limit + limit - 1) / limit := Nat.div_pos (by omega) hlimit
  rw [pageCount, pageCount, hquotient]
  omega

/-- If the map and the limit stay the same, a tour comes to an end, and it shows what lies beyond
its start. -/
theorem tour_const {m : OrderedMap K V} {limit : Nat} (hlimit : 0 < limit) {bound : Nat} (n : Nat)
    (start : Option K) (hbound : pageCount (m.ahead filter heading start).length limit ≤ bound) :
    let legs := tour (fun _ => m) (fun _ => limit) filter heading bound n start
    legs.length = pageCount (m.ahead filter heading start).length limit ∧ Leg.Ended legs ∧
      Leg.all legs = m.ahead filter heading start := by
  induction bound generalizing n start with
  | zero => exact absurd hbound (by simp [pageCount])
  | succ bound ih =>
    rw [tour]
    cases hmore : (Leg.read m filter heading limit start).more with
    | false =>
      have hlength : (m.ahead filter heading start).length ≤ limit :=
        Nat.not_lt.1 (of_decide_eq_false hmore)
      refine ⟨?_, ⟨_, rfl, hmore⟩, ?_⟩
      · rw [pageCount_of_le hlength]
        rfl
      · rw [if_neg (by simp), Leg.all, List.flatMap_cons, List.flatMap_nil, List.append_nil]
        exact List.take_of_length_le hlength
    | true =>
      have hlength : limit < (m.ahead filter heading start).length := of_decide_eq_true hmore
      have hcount := pageCount_of_lt hlimit hlength
      have hahead := Leg.ahead_stop (Leg.rows_ne_nil hlimit hmore)
      have hlength' : (m.ahead filter heading (Leg.read m filter heading limit start).stop).length
          = (m.ahead filter heading start).length - limit := by
        rw [hahead, List.length_drop]
      obtain ⟨hlegs, hend, hall⟩ := ih (n + 1) (Leg.read m filter heading limit start).stop
        (by rw [hlength']; omega)
      rw [if_pos rfl]
      refine ⟨?_, ?_, ?_⟩
      · rw [List.length_cons, hlegs, hlength', hcount]
      · exact hend.cons
      · rw [Leg.all, List.flatMap_cons]
        exact (congrArg _ (hall.trans hahead)).trans (List.take_append_drop limit _)

end Tour

/-! ## Pages of a walk -/

/-- A page of the map at the time: page number `n` is read from the map and with the limit of that
number. The state is the number of pages read so far. -/
def visit [Ord K] (stores : Nat → OrderedMap K V) (limits : Nat → Int64)
    (o : Options (V → Bool) K) (make : V → T) (q : Query) : ExceptT Fault (StateM Nat) (Page T) :=
  ExceptT.mk fun n =>
    ((find { q with limit := limits n } (stores n).source o fun v => pure (make v)).run, n + 1)

/-- The pages of a walk from a request on, of which the first is page number `n`. -/
def pages [Ord K] (stores : Nat → OrderedMap K V) (limits : Nat → Int64)
    (o : Options (V → Bool) K) (make : V → T) (bound n : Nat) (q : Query) :
    List (Except Fault (Page T)) :=
  (walk (visit stores limits o make) bound q n).1

/-- The last page has none beyond it. -/
def Ended (pages : List (Except Fault (Page T))) : Prop :=
  ∃ p, pages.getLast? = some (.ok p) ∧ p.info.hasNext = false

/-- The anchor that a page leads on to. -/
def Anchor.moved (a : Anchor) (info : Info) : Anchor :=
  match a with
  | .after _ => .after info.lastCursor
  | .before _ => .before info.firstCursor

/-- The page that shows a leg. -/
def Leg.page (codec : CursorCodec K) (a : Anchor) (make : V → T) (leg : Leg K V) : Page T :=
  ofRows codec make leg.more (a.turn leg.rows)

section Simulation

variable {codec : CursorCodec K} {make : V → T} {a : Anchor}

theorem anchor?_next {q : Query} (h : q.anchor? = some a) (info : Info) :
    (q.next info).anchor? = some (a.moved info) := by
  obtain ⟨before, after, limit⟩ := q
  cases before <;> cases after <;> cases h <;> rfl

/-- The anchor that a page leads on to is at the key at which its leg stops. -/
theorem cursor_moved {leg : Leg K V} {k : K} (h : leg.stop = some k) :
    (a.moved (leg.page codec a make).info).cursor = codec.toCursor k := by
  obtain ⟨e, he, rfl⟩ := Option.map_eq_some_iff.1 h
  cases a with
  | after =>
    simp only [Anchor.moved, Anchor.cursor, Leg.page, ofRows, Anchor.turn, he, Option.map_some,
      Option.getD_some]
  | before =>
    simp only [Anchor.moved, Anchor.cursor, Leg.page, ofRows, Anchor.turn, List.head?_reverse, he,
      Option.map_some, Option.getD_some]

theorem page_moved (info : Info) (leg : Leg K V) :
    leg.page codec (a.moved info) make = leg.page codec a make := by
  cases a <;> rfl

theorem scanOrder_moved {o : Options (V → Bool) K} (info : Info) :
    o.scanOrder (a.moved info) = o.scanOrder a := by
  cases a <;> rfl

variable [Ord K] {stores : Nat → OrderedMap K V} {limits : Nat → Int64}
  {o : Options (V → Bool) K}

theorem pages_succ {bound n : Nat} {q : Query} {p : Page T}
    (h : find { q with limit := limits n } (stores n).source o (fun v => pure (make v)) = pure p) :
    pages stores limits o make (bound + 1) n q
      = .ok p :: if p.info.hasNext then
          pages stores limits o make bound (n + 1) (q.next p.info) else [] := by
  have hvisit : visit stores limits o make q n = (.ok p, n + 1) :=
    congrArg (fun answer => (answer, n + 1)) h
  simp only [pages, walk, ExceptT.run, bind, StateT.bind, hvisit]
  cases p.info.hasNext with
  | true => rfl
  | false => rfl

/-- If the codec reads back what it writes, a walk shows the legs of its tour, page by page. -/
theorem pages_eq_tour (hlimits : ∀ n, 0 < limits n)
    (hcodec : ∀ k, startKey o.codec (o.codec.toCursor k) = .ok (some k)) {bound n : Nat}
    {q : Query} {start : Option K} (hanchor : q.anchor? = some a)
    (hstart : startKey o.codec a.cursor = .ok start) :
    pages stores limits o make bound n q
      = (tour stores (fun n => (limits n).toNatClampNeg) o.filter (o.scanOrder a) bound n start).map
          fun leg => .ok (leg.page o.codec a make) := by
  induction bound generalizing n q a start with
  | zero => rfl
  | succ bound ih =>
    have hfind := find_source (q := { q with limit := limits n }) (stores n) make hanchor
      (hlimits n) hstart
    rw [pages_succ hfind, tour, List.map_cons]
    congr 1
    let leg := Leg.read (stores n) o.filter (o.scanOrder a) (limits n).toNatClampNeg start
    show (if leg.more then pages stores limits o make bound (n + 1)
        (q.next (leg.page o.codec a make).info) else []) = List.map _ (if leg.more then _ else [])
    cases hmore : leg.more with
    | false => rfl
    | true =>
      obtain ⟨k, hk⟩ :=
        Leg.exists_stop (Leg.rows_ne_nil (toNatClampNeg_pos (hlimits n)) hmore)
      have hstop : startKey o.codec (a.moved (leg.page o.codec a make).info).cursor
          = .ok leg.stop := by
        rw [cursor_moved hk, hcodec, hk]
      have hnext := ih (n := n + 1) (anchor?_next hanchor _) hstop
      -- the anchor has moved, but only its side decides on scan order and pages
      simp only [scanOrder_moved, page_moved] at hnext
      exact hnext

end Simulation

/-! ## Walks over identifiers -/

/-- The cursor of an identifier leads back to it. -/
theorem startKey_uid (u : Uid) : startKey .uid (CursorCodec.uid.toCursor u) = .ok (some u) := by
  have hparse : CursorCodec.uid.parse u.toDisplay = .ok u := by
    simp only [CursorCodec.uid, Uid.ofDisplay?_toDisplay]
  show startKey .uid u.toDisplay = _
  rw [startKey, if_neg (Uid.toDisplay_ne_empty u), hparse]
  rfl

theorem flatMap_turn (a : Anchor) (legs : List (Leg K V)) :
    (a.turn legs).flatMap (fun leg => a.turn leg.rows) = a.turn (Leg.all legs) := by
  cases a with
  | after => rfl
  | before => exact List.reverse_flatMap.symm

theorem turn_ahead_none [Ord K] (m : OrderedMap K V) (o : Options (V → Bool) K) (a : Anchor) :
    a.turn (m.ahead o.filter (o.scanOrder a) none) = m.matching o.filter o.order := by
  cases a with
  | after => rfl
  | before =>
    show (m.matching o.filter o.order.reverse).reverse = _
    rw [OrderedMap.matching_reverse, List.reverse_reverse]

theorem ended_map_iff {codec : CursorCodec K} {make : V → T} {a : Anchor} {legs : List (Leg K V)} :
    Ended (legs.map fun leg => .ok (leg.page codec a make)) ↔ Leg.Ended legs := by
  rw [Ended, Leg.Ended, List.getLast?_map]
  cases legs.getLast? with
  | none => simp
  | some leg => simp [Leg.page, ofRows]

/-- A walk over a map that may be another one at every page, with limits that may differ from page
to page, from the edge of the order in either direction: its pages show the legs of the tour. The
keys move strictly on, so none comes twice. Every row was there when its page was read. If the walk
comes to an end, every key that had a matching row at each page comes exactly once. Over a map that
stays the same, with one limit, the walk ends after as many pages as the matching rows need, and
its pages, put one after another in the order of display, are those rows. -/
theorem walk_shows_each_once (stores : Nat → OrderedMap Uid V) (limits : Nat → Int64)
    (filter : V → Bool) (descending : Bool) (make : V → T) (bound : Nat) {q : Query} {a : Anchor}
    (hlimits : ∀ n, 0 < limits n) (hanchor : q.anchor? = some a) (hedge : a.cursor = "") :
    let o : Options (V → Bool) Uid := ⟨filter, descending, .uid⟩
    let walked := pages stores limits o make bound 0 q
    let legs := tour stores (fun n => (limits n).toNatClampNeg) filter (o.scanOrder a) bound 0 none
    let keys := (Leg.all legs).map (·.1)
    walked = legs.map (fun leg => .ok (leg.page .uid a make)) ∧
    keys.Pairwise (fun j k => (o.scanOrder a).precedes j k = true) ∧
    (∀ i leg, legs[i]? = some leg → ∀ e ∈ leg.rows, e ∈ (stores i).entries ∧ filter e.2 = true) ∧
    (Ended walked → ∀ k,
      (∀ i < walked.length, ∃ v, (k, v) ∈ (stores i).entries ∧ filter v = true) →
      keys.count k = 1) ∧
    (∀ m limit, (∀ n, stores n = m) → (∀ n, limits n = limit) →
      let rows := m.matching filter o.order
      pageCount rows.length limit.toNatClampNeg ≤ bound →
      walked.length = pageCount rows.length limit.toNatClampNeg ∧ Ended walked ∧
        (a.turn legs).flatMap (fun leg => a.turn leg.rows) = rows) := by
  intro o walked legs keys
  have hlimits' : ∀ n, 0 < (limits n).toNatClampNeg := fun n => toNatClampNeg_pos (hlimits n)
  have hwalked : walked = legs.map fun leg => .ok (leg.page .uid a make) :=
    pages_eq_tour hlimits startKey_uid hanchor (by rw [startKey, if_pos hedge])
  have hlength : walked.length = legs.length := by rw [hwalked, List.length_map]
  have hkeys : keys.Pairwise fun j k => (o.scanOrder a).precedes j k = true :=
    List.pairwise_map.2 (pairwise_tour hlimits' bound 0 none)
  refine ⟨hwalked, hkeys, ?rows, ?stays, ?const⟩
  case rows =>
    intro i leg hleg e he
    have hmem := mem_tour hleg he
    rwa [Nat.zero_add] at hmem
  case stays =>
    intro hend k hstays
    rw [hwalked, ended_map_iff] at hend
    rw [hlength] at hstays
    have hmem : k ∈ keys :=
      mem_tour_of_stays hend rfl fun i hi => by rw [Nat.zero_add]; exact hstays i hi
    have hnodup : keys.Nodup := hkeys.imp fun {j k} hjk heq => by
      rw [heq, Direction.precedes_irrefl] at hjk
      cases hjk
    rw [hnodup.count, if_pos hmem]
  case const =>
    intro m limit hm hlimit rows hbound
    obtain rfl : stores = fun _ => m := funext hm
    obtain rfl : limits = fun _ => limit := funext hlimit
    have hrows : a.turn (m.ahead filter (o.scanOrder a) none) = rows := turn_ahead_none m o a
    rw [← hrows, Anchor.length_turn] at hbound ⊢
    obtain ⟨hcount, hend, hall⟩ := tour_const (hlimits' 0) 0 none hbound
    refine ⟨?_, ?_, ?_⟩
    · rw [hlength]
      exact hcount
    · rw [hwalked, ended_map_iff]
      exact hend
    · rw [flatMap_turn]
      exact congrArg a.turn hall

/-- A walk of which the row at the cursor is erased after the first page. -/
theorem walk_shows_each_once_erased :
    let u : Uid := ⟨300000, by decide, by decide⟩
    let v : Uid := ⟨400000, by decide, by decide⟩
    let w : Uid := ⟨500000, by decide, by decide⟩
    let stores : Nat → OrderedMap Uid String := fun n =>
      if n = 0 then ⟨[(u, "u"), (v, "v"), (w, "w")], by decide⟩
      else ⟨[(u, "u"), (w, "w")], by decide⟩
    let walked := pages stores (fun _ => 2) ⟨fun _ => true, false, .uid⟩ (fun s => s) 3 0
      (.ofAfter "" 2)
    walked.map (fun answer => answer.toOption.map Page.items) = [some ["u", "v"], some ["w"]] ∧
      Ended walked := by
  intro u v w stores walked
  have hwalk := walk_shows_each_once stores (fun _ => 2) (fun _ => true) false (fun s => s) 3
    (q := .ofAfter "" 2) (a := .after "") (fun _ => by decide) rfl rfl
  have hlegs : walked = _ := hwalk.1
  constructor
  · rw [hlegs]
    rfl
  · rw [hlegs, ended_map_iff]
    exact ⟨_, rfl, rfl⟩

end Chronicle.Page
