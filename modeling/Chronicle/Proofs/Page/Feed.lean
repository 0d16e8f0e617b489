-- SUMMARY: A reader that follows records while they are stored under new identifiers.
import Chronicle.Proofs.Generator.Traffic
import Chronicle.Proofs.Page.Walk

/-!
# Following a map that grows

Records are stored in a map, each under the next identifier of a generator, while a reader asks for
page after page, always beyond the last row that it was shown. Identifiers ascend, so a new record
goes behind all others, and behind the reader's place among them. The matching records are thus
those that were shown, followed by those that lie ahead of the reader, and a page moves rows from
the second part to the first.
-/

namespace Chronicle

/-! ## Rows behind all others -/

namespace OrderedMap

variable {K V : Type} [Ord K] {m : OrderedMap K V} {k : K}

theorem get?_eq_none_of_lt (h : ∀ e ∈ m.entries, compare e.1 k = .lt) : m.get? k = none := by
  have hfind : m.entries.find? (fun e => compare e.1 k == .eq) = none :=
    List.find?_eq_none.2 fun e he => by simp [h e he]
  rw [get?, hfind]
  rfl

variable [Std.TransOrd K]

theorem entries_insert_of_lt (h : ∀ e ∈ m.entries, compare e.1 k = .lt) (v : V) :
    (m.insert k v).entries = m.entries ++ [(k, v)] := by
  have hbelow : m.below k = m.entries := List.filter_eq_self.2 fun e he => beq_iff_eq.2 (h e he)
  have habove : m.above k = [] := List.filter_eq_nil_iff.2 fun e he => by simp [h e he]
  rw [entries_insert, hbelow, habove]

/-- A row behind all others lies ahead of every place among them. -/
theorem ahead_insert_of_lt (h : ∀ e ∈ m.entries, compare e.1 k = .lt) (v : V)
    (filter : V → Bool) {start : Option K}
    (hstart : Direction.ascending.beyond start k = true) :
    (m.insert k v).ahead filter .ascending start
      = m.ahead filter .ascending start ++ [(k, v)].filter fun e => filter e.2 := by
  have hlast : ([(k, v)].filter fun e => filter e.2).filter
      (fun e => Direction.ascending.beyond start e.1) = [(k, v)].filter fun e => filter e.2 :=
    List.filter_eq_self.2 fun e he => by
      rw [List.mem_singleton.1 (List.mem_filter.1 he).1]
      exact hstart
  simp only [ahead_eq, matching, beyond, entries_insert_of_lt h, List.filter_append]
  rw [hlast]

end OrderedMap

open Generator (World Config Traffic)

/-! ## Feeds -/

/-- A generator, a map in which records are stored under its identifiers, and a reader of the
map. -/
structure Feed (ω V T : Type) where
  traffic : Traffic ω
  /-- The last identifier issued, as long as nothing is stored under it. -/
  pending : Option Uid := none
  store : OrderedMap Uid V := .empty
  /-- The records in the order in which they were stored. -/
  written : List (Uid × V) := []
  /-- The cursor with which the reader goes on. -/
  cursor : String := ""
  /-- The pages that the reader has got. -/
  pages : List (Page T) := []

namespace Feed

variable {ω V T : Type}

/-- What can happen next. -/
inductive Event (ω V : Type) where
  /-- Something at the generator. Nothing is issued while an identifier is pending. -/
  | generator (e : Generator.Event ω)
  /-- A record is stored under the pending identifier. -/
  | store (record : V)
  /-- The reader asks for the next page. -/
  | read (limit : Int64)

variable (W : World ω) (filter : V → Bool) (make : V → T)

/-- A feed with nothing in it. -/
def start (config : Config) (world : ω) : Feed ω V T :=
  { traffic := .start config world }

/-- The identifier that is issued in an event at the generator. -/
def issued? (s : Feed ω V T) (e : Generator.Event ω) : Option Uid :=
  (s.traffic.deed? W e).bind (·.2.issued?)

/-- The generator has moved on. -/
def moved (s : Feed ω V T) (e : Generator.Event ω) : Feed ω V T :=
  { s with
    traffic := s.traffic.next W e
    pending := (s.issued? W e).or s.pending }

/-- A record has been stored under the pending identifier. -/
def stored (s : Feed ω V T) (id : Uid) (record : V) : Feed ω V T :=
  { s with
    pending := none
    store := s.store.insert id record
    written := s.written ++ [(id, record)] }

/-- The answer to the reader: a page in ascending order, beyond its cursor. -/
def page (s : Feed ω V T) (limit : Int64) : Except Fault (Page T) :=
  (Page.find (.ofAfter s.cursor limit) s.store.source ⟨filter, false, .uid⟩
    fun record => pure (make record)).run

/-- The reader has got a page. It goes on from the last row, if there is one. -/
def got (s : Feed ω V T) (p : Page T) : Feed ω V T :=
  { s with
    cursor := if p.items.isEmpty then s.cursor else p.info.lastCursor
    pages := s.pages ++ [p] }

def next (s : Feed ω V T) : Event ω V → Feed ω V T
  | .generator e => if s.pending.isSome ∧ (s.issued? W e).isSome then s else s.moved W e
  | .store record =>
    match s.pending with
    | some id => s.stored id record
    | none => s
  | .read limit =>
    match s.page filter make limit with
    | .ok p => s.got p
    | .error _ => s

def run (s : Feed ω V T) (events : List (Event ω V)) : Feed ω V T :=
  events.foldl (next W filter make) s

/-- The identifiers that were taken, in order. -/
def ids (s : Feed ω V T) : List Uid :=
  s.written.map (·.1) ++ s.pending.toList

/-- The items that the reader has been shown, page after page. -/
def shown (s : Feed ω V T) : List T :=
  s.pages.flatMap Page.items

/-- The items of the records that pass the filter, in the order in which they were stored. -/
def items (s : Feed ω V T) : List T :=
  (s.written.filter fun e => filter e.2).map fun e => make e.2

/-! ## The invariant -/

/-- The reader's place in the map: at the edge or at a record. What matches has been shown or lies
ahead of the place. -/
structure Placed (s : Feed ω V T) (place : Option Uid) : Prop where
  cursor : Page.startKey .uid s.cursor = .ok place
  written : ∀ k ∈ place, k ∈ s.written.map (·.1)
  items_eq : s.items filter make
    = s.shown ++ (s.store.ahead filter .ascending place).map fun e => make e.2

/-- The identifiers taken ascend, and the map holds the records in the order in which they were
stored. -/
structure Sound (s : Feed ω V T) : Prop where
  traffic : s.traffic.Sound s.ids.getLast?
  ascending : s.ids.Pairwise (· < ·)
  entries : s.store.entries = s.written
  placed : ∃ place, s.Placed filter make place

variable {W : World ω} {filter : V → Bool} {make : V → T} {s : Feed ω V T}

theorem sound_start (config : Config) (world : ω) :
    (start config world : Feed ω V T).Sound filter make where
  traffic := Traffic.sound_start config world
  ascending := .nil
  entries := rfl
  placed := ⟨none, rfl, nofun, rfl⟩

/-- The pending identifier is above all keys of the map. -/
theorem Sound.lt_pending (h : s.Sound filter make) {id : Uid} (hid : s.pending = some id) :
    ∀ e ∈ s.written, e.1 < id := by
  have hascending := h.ascending
  rw [ids, hid, List.pairwise_append] at hascending
  exact fun e he => hascending.2.2 e.1 (List.mem_map_of_mem he) id List.mem_cons_self

theorem Sound.compare_pending (h : s.Sound filter make) {id : Uid} (hid : s.pending = some id) :
    ∀ e ∈ s.store.entries, compare e.1 id = .lt := by
  rw [h.entries]
  exact fun e he => Uid.compare_eq_lt_iff.2 (h.lt_pending hid e he)

/-! ## Steps -/

theorem Sound.moved (h : s.Sound filter make) {e : Generator.Event ω}
    (hfree : ¬ (s.pending.isSome ∧ (s.issued? W e).isSome)) : (s.moved W e).Sound filter make := by
  obtain ⟨htraffic, hissued⟩ := h.traffic.next (s.traffic.next_spec W e)
  obtain ⟨place, hplaced⟩ := h.placed
  have hplaced : (s.moved W e).Placed filter make place :=
    ⟨hplaced.cursor, hplaced.written, hplaced.items_eq⟩
  have hids : (s.moved W e).ids = s.ids ++ (s.issued? W e).toList := by
    simp only [ids, Feed.moved]
    cases hpending : s.pending with
    | none => simp
    | some u =>
      have hnone : s.issued? W e = none := by
        rw [hpending] at hfree
        exact Option.not_isSome_iff_eq_none.1 fun hsome => hfree ⟨rfl, hsome⟩
      simp [hnone]
  refine ⟨?_, ?_, h.entries, place, hplaced⟩
  · have hlast : (s.issued? W e).toList.getLast? = s.issued? W e := by
      cases s.issued? W e <;> rfl
    rw [hids, List.getLast?_append, hlast]
    exact htraffic
  · -- a new identifier is above the last one, and so above all of them
    rw [hids]
    refine List.pairwise_append.2 ⟨h.ascending, Option.pairwise_toList, ?_⟩
    intro u hu id hid
    exact Traffic.lt_of_getLast? h.ascending (hissued id (Option.mem_toList.1 hid)) u hu

theorem Sound.stored (h : s.Sound filter make) {id : Uid} (hid : s.pending = some id)
    (record : V) : (s.stored id record).Sound filter make := by
  have hids : (s.stored id record).ids = s.ids := by
    simp [ids, Feed.stored, hid]
  have hbelow := h.compare_pending hid
  obtain ⟨place, hplaced⟩ := h.placed
  have hplace : Direction.ascending.beyond place id = true := by
    cases place with
    | none => rfl
    | some k =>
      obtain ⟨e, he, rfl⟩ := List.mem_map.1 (hplaced.written k rfl)
      exact beq_iff_eq.2 (Uid.compare_eq_lt_iff.2 (h.lt_pending hid e he))
  refine ⟨?_, ?_, ?_, place, hplaced.cursor, ?_, ?_⟩
  · rw [hids]
    exact h.traffic
  · rw [hids]
    exact h.ascending
  · show (s.store.insert id record).entries = s.written ++ [(id, record)]
    rw [OrderedMap.entries_insert_of_lt hbelow, h.entries]
  · intro k hk
    refine List.mem_map.2 ?_
    obtain ⟨e, he, hek⟩ := List.mem_map.1 (hplaced.written k hk)
    exact ⟨e, List.mem_append_left _ he, hek⟩
  · -- the new record is behind the reader's place
    have hahead := OrderedMap.ahead_insert_of_lt hbelow record filter hplace
    calc (s.stored id record).items filter make
      _ = s.items filter make ++ ([(id, record)].filter fun e => filter e.2).map
            fun e => make e.2 := by
          simp only [items, Feed.stored, List.filter_append, List.map_append]
      _ = s.shown ++ ((s.store.insert id record).ahead filter .ascending place).map
            fun e => make e.2 := by
          rw [hplaced.items_eq, hahead, List.map_append, List.append_assoc]

/-! ## Pages -/

section

variable {place : Option Uid} {limit : Int64}

/-- The reader gets the rows that lie ahead of its place, as far as the limit allows. -/
theorem Placed.page_eq (h : s.Placed filter make place) (hlimit : 0 < limit) :
    s.page filter make limit
      = .ok ((Page.Leg.read s.store filter .ascending limit.toNatClampNeg place).page .uid
          (.after s.cursor) make) :=
  Page.find_source (q := .ofAfter s.cursor limit) (a := .after s.cursor)
    (o := ⟨filter, false, .uid⟩) s.store make rfl hlimit h.cursor

/-- A page that is asked for with a limit that is not positive is refused. -/
theorem page_eq_error (hlimit : ¬ 0 < limit) :
    s.page filter make limit = .error (.params (.limit limit.toInt)) := by
  have hvalidate : (Page.Query.ofAfter s.cursor limit).validate
      = .error (.params (.limit limit.toInt)) := if_neg hlimit
  rw [page, Page.find, Page.plan, hvalidate]
  rfl

theorem shown_got (p : Page T) : (s.got p).shown = s.shown ++ p.items := by
  simp only [shown, got, List.flatMap_append, List.flatMap_cons, List.flatMap_nil, List.append_nil]

theorem items_got (p : Page T) : (s.got p).items filter make = s.items filter make := rfl

/-- What a page shows moves behind the reader's place. -/
theorem Placed.got (h : s.Placed filter make place) (hentries : s.store.entries = s.written)
    (n : Nat) :
    ∃ place', (s.got ((Page.Leg.read s.store filter .ascending n place).page .uid
      (.after s.cursor) make)).Placed filter make place' := by
  let leg := Page.Leg.read s.store filter .ascending n place
  let p := leg.page .uid (.after s.cursor) make
  have hshown : (s.got p).shown = s.shown ++ leg.rows.map fun e => make e.2 := shown_got p
  by_cases hrows : leg.rows = []
  · -- an empty page leaves the place where it is
    have hcursor : (s.got p).cursor = s.cursor := by
      have hitems : p.items = [] := congrArg (List.map _) hrows
      rw [Feed.got, hitems]
      rfl
    refine ⟨place, ?_, h.written, ?_⟩
    · rw [hcursor]
      exact h.cursor
    · rw [hshown, hrows, List.map_nil, List.append_nil]
      exact h.items_eq
  · obtain ⟨k, hk⟩ := Page.Leg.exists_stop hrows
    have hcursor : (s.got p).cursor = CursorCodec.uid.toCursor k := by
      have hitems : p.items.isEmpty = false := by
        rw [List.isEmpty_eq_false_iff]
        exact fun hnil => hrows (List.map_eq_nil_iff.1 hnil)
      have hlast : ((Page.Anchor.after s.cursor).moved p.info).cursor
          = CursorCodec.uid.toCursor k := Page.cursor_moved hk
      rw [Feed.got, hitems]
      exact hlast
    refine ⟨leg.stop, ?_, ?_, ?_⟩
    · rw [hcursor, hk]
      exact Page.startKey_uid k
    · intro k' hk'
      obtain ⟨e, he, rfl⟩ := Option.map_eq_some_iff.1 hk'
      have hmem := (Page.Leg.mem_read (List.mem_of_getLast? he)).1
      rw [hentries] at hmem
      exact List.mem_map_of_mem hmem
    · have hahead : s.store.ahead filter .ascending place
          = leg.rows ++ s.store.ahead filter .ascending leg.stop := by
        rw [Page.Leg.ahead_stop hrows]
        exact (List.take_append_drop n _).symm
      calc (s.got p).items filter make
        _ = s.shown ++ (s.store.ahead filter .ascending place).map fun e => make e.2 := h.items_eq
        _ = (s.got p).shown ++ (s.store.ahead filter .ascending leg.stop).map
              fun e => make e.2 := by
            rw [hshown, hahead, List.map_append, List.append_assoc]

end

theorem Sound.next (h : s.Sound filter make) (e : Event ω V) :
    (s.next W filter make e).Sound filter make := by
  cases e with
  | generator e =>
    rw [Feed.next]
    split
    next => exact h
    next hfree => exact h.moved hfree
  | store record =>
    rw [Feed.next]
    split
    next id hid => exact h.stored hid record
    next => exact h
  | read limit =>
    rw [Feed.next]
    by_cases hlimit : 0 < limit
    · obtain ⟨place, hplaced⟩ := h.placed
      rw [hplaced.page_eq hlimit]
      exact ⟨h.traffic, h.ascending, h.entries, hplaced.got h.entries _⟩
    · rw [page_eq_error hlimit]
      exact h

theorem Sound.run (h : s.Sound filter make) (events : List (Event ω V)) :
    (s.run W filter make events).Sound filter make := by
  induction events generalizing s with
  | nil => exact h
  | cons e events ih => exact ih (h.next e)

/-! ## Runs -/

/-- Whatever happens at a generator, whenever records are stored under its identifiers, and
whenever a reader asks for how large a page: no record is stored in the place of another, and the
map holds the records in the order in which they were stored. What the reader has been shown is a
beginning of the records that pass the filter, in that order. A page asked for with a positive
limit is given, and if there is no more beyond it, the reader has been shown all of them. -/
theorem shows_records_in_order (W : World ω) (config : Config) (world : ω) (filter : V → Bool)
    (make : V → T) (events : List (Event ω V)) :
    let s := (start config world : Feed ω V T).run W filter make events
    (∀ id ∈ s.pending, s.store.get? id = none) ∧ s.store.entries = s.written ∧
      s.shown <+: s.items filter make ∧
      ∀ limit, 0 < limit → ∃ p, s.page filter make limit = .ok p ∧
        s.next W filter make (.read limit) = s.got p ∧
        (p.info.hasNext = false → (s.got p).shown = (s.got p).items filter make) := by
  intro s
  have h : s.Sound filter make := (sound_start config world).run events
  obtain ⟨place, hplaced⟩ := h.placed
  refine ⟨?_, h.entries, ⟨_, hplaced.items_eq.symm⟩, ?_⟩
  · intro id hid
    exact OrderedMap.get?_eq_none_of_lt (h.compare_pending hid)
  · intro limit hlimit
    have hpage := hplaced.page_eq hlimit
    refine ⟨_, hpage, by rw [Feed.next, hpage], ?_⟩
    intro hmore
    -- all that lay ahead is on the page
    have hlength : (s.store.ahead filter .ascending place).length ≤ limit.toNatClampNeg :=
      Nat.not_lt.1 (of_decide_eq_false hmore)
    rw [shown_got, items_got, hplaced.items_eq]
    exact congrArg (fun rows => s.shown ++ rows.map fun e => make e.2)
      (List.take_of_length_le hlength)

/-- The lease expires between two records that pass the filter, and a third one does not pass it.
The reader asks for a page before anything is stored, and for pages of one row later on. -/
theorem shows_records_in_order_renewed :
    let W : World (UInt64 × UInt64) :=
      ⟨fun w => w.1, fun w => (0, w), fun w => (.ok (w.2 + 1), w.1, w.2 + 1), fun _ w => w⟩
    let config : Config := { leaseTtl := .ofSeconds 2, leaseJitter := .ofSeconds 0 }
    let turn : Event (UInt64 × UInt64) String := .generator (.turn 0)
    let events : List (Event (UInt64 × UInt64) String) :=
      [.generator (.arrive .identifier), turn, turn, turn, turn, .read 1, turn, .store "a",
        .generator (.leave 0), .generator (.arrive .identifier), .generator (.turn 1), .store "",
        .generator (.drift (9500, 1)), .generator (.arrive .identifier)]
      ++ List.replicate 5 (.generator (.turn 2)) ++ [.store "b", .read 1]
    let s := (start config (5000, 0) : Feed (UInt64 × UInt64) String String).run W (· ≠ "")
      (fun record => record) events
    s.written.map (fun e => (e.1.workerId, e.2)) = [(1, "a"), (1, ""), (2, "b")] ∧
      s.shown = ["a"] ∧ ∃ p, s.page (· ≠ "") (fun record => record) 1 = .ok p ∧
        p.info.hasNext = false ∧ (s.got p).shown = ["a", "b"] := by
  intro W config turn events s
  have hwritten : s.written.map (fun e => (e.1.workerId, e.2)) = [(1, "a"), (1, ""), (2, "b")] := by
    decide +kernel
  have hmore : (s.page (· ≠ "") (fun record => record) 1).toOption.map (·.info.hasNext)
      = some false := by decide +kernel
  obtain ⟨-, -, -, hread⟩ := shows_records_in_order (V := String) (T := String) W config (5000, 0)
    (· ≠ "") (fun record => record) events
  obtain ⟨p, hpage, -, hall⟩ := hread 1 (by decide)
  rw [hpage] at hmore
  have hlast : p.info.hasNext = false := Option.some.inj hmore
  have hshown : s.shown = ["a"] := by decide +kernel
  have hitems : s.items (· ≠ "") (fun record => record) = ["a", "b"] := by decide +kernel
  refine ⟨hwritten, hshown, p, hpage, hlast, ?_⟩
  rw [hall hlast, items_got, hitems]

end Feed

end Chronicle
