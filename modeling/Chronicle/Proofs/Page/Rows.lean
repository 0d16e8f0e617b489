-- SUMMARY: Which rows of a map a page shows: the matching rows nearest to the cursor.
import Chronicle.Page.Memory

/-!
# Rows of a page

All the rows that pass the filter, in the order in which they are shown, are cut at the cursor. A
page after the cursor shows the first rows of the part behind the cut, a page before it the last
rows of the part ahead of the cut; the row at the cursor, if there is one, is in neither part. The
scan sees the same rows in the order in which it moves away from the cursor.
-/

namespace Chronicle

variable {K V T : Type}

/-! ## Orders of keys -/

namespace Direction

variable [Ord K]

/-- A key comes strictly before another in an order. -/
def precedes (d : Direction) (a b : K) : Bool :=
  match d with
  | .ascending => compare a b == .lt
  | .descending => compare b a == .lt

/-- A key lies strictly beyond another, or beyond the edge of the order, as all keys do. -/
def beyond (d : Direction) (start : Option K) (k : K) : Bool :=
  start.all (d.precedes · k)

@[simp] theorem precedes_reverse (d : Direction) (a b : K) :
    d.reverse.precedes a b = d.precedes b a := by
  cases d <;> rfl

theorem precedes_trans [Std.TransOrd K] {d : Direction} {a b c : K} (hab : d.precedes a b)
    (hbc : d.precedes b c) : d.precedes a c := by
  cases d with
  | ascending =>
    simp only [precedes, beq_iff_eq] at hab hbc ⊢
    exact Std.TransCmp.lt_trans hab hbc
  | descending =>
    simp only [precedes, beq_iff_eq] at hab hbc ⊢
    exact Std.TransCmp.lt_trans hbc hab

theorem precedes_irrefl [Std.TransOrd K] (d : Direction) (a : K) : d.precedes a a = false := by
  cases d with
  | ascending => simp [precedes, Std.ReflCmp.compare_self]
  | descending => simp [precedes, Std.ReflCmp.compare_self]

end Direction

/-! ## Matching rows in an order -/

namespace OrderedMap

variable [Ord K] {m : OrderedMap K V} {filter : V → Bool} {d : Direction}

/-- The rows that pass a filter, in an order. -/
def matching (m : OrderedMap K V) (filter : V → Bool) (d : Direction) : List (K × V) :=
  (m.beyond none d).filter fun e => filter e.2

/-- The rows that pass a filter and lie beyond a key, in an order. -/
def ahead (m : OrderedMap K V) (filter : V → Bool) (d : Direction) (start : Option K) :
    List (K × V) :=
  (m.beyond start d).filter fun e => filter e.2

theorem matching_reverse (m : OrderedMap K V) (filter : V → Bool) (d : Direction) :
    m.matching filter d.reverse = (m.matching filter d).reverse := by
  cases d with
  | ascending => exact List.filter_reverse
  | descending =>
    simp only [matching, beyond, Direction.reverse, List.filter_reverse, List.reverse_reverse]

theorem mem_matching {e : K × V} :
    e ∈ m.matching filter d ↔ e ∈ m.entries ∧ filter e.2 = true := by
  cases d <;> simp [matching, beyond]

theorem pairwise_matching : (m.matching filter d).Pairwise fun a b => d.precedes a.1 b.1 := by
  refine List.Pairwise.filter _ ?_
  cases d with
  | ascending => exact m.ascending.imp fun h => by simpa [Direction.precedes] using h
  | descending =>
    refine List.pairwise_reverse.2 (m.ascending.imp fun h => ?_)
    simpa [Direction.precedes] using h

theorem ahead_eq [Std.TransOrd K] (m : OrderedMap K V) (filter : V → Bool) (d : Direction)
    (start : Option K) :
    m.ahead filter d start
      = (m.matching filter d).filter fun e => d.beyond start e.1 := by
  cases start with
  | none => simp [ahead, matching, Direction.beyond]
  | some c =>
    cases d with
    | ascending =>
      have habove : ∀ e : K × V, (compare e.1 c == .gt) = (compare c e.1 == .lt) := fun e => by
        rw [Bool.eq_iff_iff, beq_iff_eq, beq_iff_eq, Std.OrientedCmp.gt_iff_lt]
      simp only [ahead, matching, beyond, above, List.filter_filter, habove, Direction.beyond,
        Direction.precedes, Option.all_some, Bool.and_comm]
    | descending =>
      simp only [ahead, matching, beyond, below, List.filter_reverse, List.filter_filter,
        Direction.beyond, Direction.precedes, Option.all_some, Bool.and_comm]

theorem mem_ahead [Std.TransOrd K] {start : Option K} {e : K × V} :
    e ∈ m.ahead filter d start
      ↔ (e ∈ m.entries ∧ filter e.2 = true) ∧ d.beyond start e.1 = true := by
  rw [ahead_eq, List.mem_filter, mem_matching]

theorem pairwise_ahead [Std.TransOrd K] {start : Option K} :
    (m.ahead filter d start).Pairwise fun a b => d.precedes a.1 b.1 := by
  rw [ahead_eq]
  exact pairwise_matching.filter _

end OrderedMap

/-! ## The rows of a page -/

namespace Page

namespace Anchor

/-- The rows on the side of an anchor, from rows in the order `d` of display. No key stands for the
edge of the order. -/
def side [Ord K] (a : Anchor) (d : Direction) (start : Option K) (rows : List (K × V)) :
    List (K × V) :=
  match a with
  | .after _ => rows.filter fun e => start.all (d.precedes · e.1)
  | .before _ => rows.filter fun e => start.all (d.precedes e.1 ·)

/-- The rows of a side that are nearest to the anchor. -/
def nearest {α : Type} (a : Anchor) (limit : Nat) (rows : List α) : List α :=
  match a with
  | .after _ => rows.take limit
  | .before _ => rows.drop (rows.length - limit)

/-- Rows in the order of display, from rows in the order in which a scan moves away. -/
def turn {α : Type} (a : Anchor) (rows : List α) : List α :=
  match a with
  | .after _ => rows
  | .before _ => rows.reverse

variable {α : Type} {a : Anchor}

@[simp] theorem length_turn (rows : List α) : (a.turn rows).length = rows.length := by
  cases a with
  | after => rfl
  | before => exact List.length_reverse

theorem nearest_turn (limit : Nat) (rows : List α) :
    a.nearest limit (a.turn rows) = a.turn (rows.take limit) := by
  cases a with
  | after => rfl
  | before =>
    simp only [nearest, turn, List.length_reverse, List.reverse_take]

end Anchor

/-- The page that shows rows: its cursors are those of the first and the last row, and empty if
there is none. -/
def ofRows (codec : CursorCodec K) (make : V → T) (more : Bool) (rows : List (K × V)) : Page T where
  items := rows.map fun e => make e.2
  info :=
    { firstCursor := (rows.head?.map fun e => codec.toCursor e.1).getD ""
      lastCursor := (rows.getLast?.map fun e => codec.toCursor e.1).getD ""
      hasNext := more }

theorem infoOf_eq {codec : CursorCodec K} (make : V → T) {more : Bool} {rows : List (K × V)}
    (hmore : rows = [] → more = false) :
    infoOf codec more rows = (ofRows codec make more rows).info := by
  cases hrows : rows with
  | nil => rw [hmore hrows]; rfl
  | cons e rest =>
    simp only [infoOf, ofRows, List.head?_cons, List.getLast?_cons, Option.map_some,
      Option.getD_some]

/-- A text that may be missing is empty if there is none, or if it is the empty one. -/
theorem getD_map_eq_empty_iff {e? : Option (K × V)} {text : K × V → String} :
    (e?.map text).getD "" = "" ↔ ∀ e ∈ e?, text e = "" := by
  cases e? with
  | none => simp
  | some e => simp

section Request

variable {o : Options (V → Bool) K} {q : Query} {a : Anchor} {start : Option K}

theorem shown_scanOrder {F : Type} {o : Options F K} (limit : Nat) (rows : List (K × V)) :
    shown o (o.scanOrder a) limit rows = a.turn (rows.take limit) := by
  have hne : ∀ d : Direction, d.reverse ≠ d := fun d => by cases d <;> nofun
  cases a with
  | after => exact if_pos rfl
  | before => exact if_neg (hne _)

theorem plan_eq_ok {F : Type} {o : Options F K} (hanchor : q.anchor? = some a)
    (hlimit : 0 < q.limit) (hstart : startKey o.codec a.cursor = .ok start) :
    plan q o
      = .ok (⟨start, o.scanOrder a, q.limit.toNatClampNeg + 1⟩, q.limit.toNatClampNeg) := by
  simp only [plan, Query.validate, hanchor, if_pos hlimit, hstart]

theorem toNatClampNeg_pos {limit : Int64} (hlimit : 0 < limit) : 0 < limit.toNatClampNeg := by
  have h : (0 : Int64).toInt < limit.toInt := Int64.lt_iff_toInt_lt.1 hlimit
  rw [Int64.toNatClampNeg]
  simp only [Int64.toInt_zero] at h
  omega

variable [Ord K]

/-- A page of rows in memory: the first rows that a scan passes, turned into the order of display,
and whether that is not all of them. -/
theorem find_source (m : OrderedMap K V) (make : V → T) (hanchor : q.anchor? = some a)
    (hlimit : 0 < q.limit) (hstart : startKey o.codec a.cursor = .ok start) :
    let limit := q.limit.toNatClampNeg
    let rows := m.ahead o.filter (o.scanOrder a) start
    find q m.source o (fun v => pure (make v))
      = pure (ofRows o.codec make (limit < rows.length) (a.turn (rows.take limit))) := by
  intro limit rows
  have hscan : m.source o.filter ⟨start, o.scanOrder a, limit + 1⟩
      = pure (rows.take (limit + 1)) := rfl
  have hshown : shown o (o.scanOrder a) limit (rows.take (limit + 1))
      = a.turn (rows.take limit) := by
    rw [shown_scanOrder, List.take_take, Nat.min_eq_left (Nat.le_succ limit)]
  -- the row beyond the limit is scanned only for this
  have hmore : limit < (rows.take (limit + 1)).length ↔ limit < rows.length := by
    rw [List.length_take]
    omega
  have hnone : a.turn (rows.take limit) = [] → decide (limit < rows.length) = false := by
    intro h
    have hlength : (a.turn (rows.take limit)).length = min limit rows.length := by
      rw [Anchor.length_turn, List.length_take]
    rw [h, List.length_nil] at hlength
    have hpos : 0 < limit := toNatClampNeg_pos hlimit
    exact decide_eq_false (by omega)
  simp only [find, plan_eq_ok hanchor hlimit hstart]
  rw [hscan, pure_bind, hshown, List.mapM_pure, pure_bind, decide_eq_decide.2 hmore,
    infoOf_eq make hnone]
  rfl

variable [Std.TransOrd K]

/-- A scan sees the rows on the side of its anchor in the order in which it moves away. -/
theorem side_matching (m : OrderedMap K V) (start : Option K) :
    a.side o.order start (m.matching o.filter o.order)
      = a.turn (m.ahead o.filter (o.scanOrder a) start) := by
  rw [OrderedMap.ahead_eq]
  cases a with
  | after => rfl
  | before =>
    simp only [Anchor.side, Anchor.turn, Options.scanOrder, OrderedMap.matching_reverse,
      Direction.beyond, Direction.precedes_reverse, List.filter_reverse, List.reverse_reverse]

/-- Whatever the rows, the filter, the order of display and the codec, a good request for a page of
rows in memory is answered. The page shows the rows on the side of its anchor that are nearest to
it, in the order of display. There is more if the side holds more rows than the limit. The cursors
are those of the first and the last row shown, and empty if none is shown. Otherwise both are empty
where the codec writes nothing for the keys of these rows, and only there. -/
theorem find_shows_nearest (m : OrderedMap K V) (make : V → T) (hanchor : q.anchor? = some a)
    (hlimit : 0 < q.limit) (hstart : startKey o.codec a.cursor = .ok start) :
    let side := a.side o.order start (m.matching o.filter o.order)
    let shown := a.nearest q.limit.toNatClampNeg side
    ∃ p : Page T, find q m.source o (fun v => pure (make v)) = pure p ∧
      p.items = shown.map (fun e => make e.2) ∧
      (p.info.hasNext = true ↔ q.limit.toNatClampNeg < side.length) ∧
      p.info.firstCursor = (shown.head?.map fun e => o.codec.toCursor e.1).getD "" ∧
      p.info.lastCursor = (shown.getLast?.map fun e => o.codec.toCursor e.1).getD "" ∧
      (shown = [] → p.info.firstCursor = "" ∧ p.info.lastCursor = "") ∧
      (p.info.firstCursor = "" ∧ p.info.lastCursor = "" ↔
        (∀ e ∈ shown.head?, o.codec.toCursor e.1 = "") ∧
          ∀ e ∈ shown.getLast?, o.codec.toCursor e.1 = "") := by
  intro side shown
  have hside : side = a.turn (m.ahead o.filter (o.scanOrder a) start) := side_matching m start
  have hfind : find q m.source o (fun v => pure (make v))
      = pure (ofRows o.codec make (q.limit.toNatClampNeg < side.length) shown) := by
    rw [find_source m make hanchor hlimit hstart, hside, Anchor.length_turn]
    simp only [shown, hside, Anchor.nearest_turn]
  refine ⟨_, hfind, rfl, decide_eq_true_iff, rfl, rfl, fun hnone => ?_,
    and_congr getD_map_eq_empty_iff getD_map_eq_empty_iff⟩
  rw [hnone]
  exact ⟨rfl, rfl⟩

end Request

/-- A page before a key that no row has. The row under 3 does not pass the filter. -/
theorem find_shows_nearest_before_absent :
    let m : OrderedMap UInt64 String :=
      ⟨[(1, "a"), (2, "b"), (3, ""), (5, "d"), (7, "e")], by decide⟩
    let o : Options (String → Bool) UInt64 := ⟨(· ≠ ""), false, .decimal⟩
    startKey o.codec "4" = .ok (some 4) ∧
    ∃ p : Page String, find (.ofBefore "4" 1) m.source o (fun v => pure v) = pure p ∧
      p.items = ["b"] ∧ p.info.hasNext = true ∧
      p.info.firstCursor = "2" ∧ p.info.lastCursor = "2" := by
  intro m o
  have hstart : startKey o.codec "4" = .ok (some 4) := rfl
  have hside : Anchor.side (.before "4") o.order (some 4) (m.matching o.filter o.order)
      = [(1, "a"), (2, "b")] := by
    decide
  have hpage := find_shows_nearest m (fun v : String => v) (o := o) (q := .ofBefore "4" 1)
    (a := .before "4") rfl (by decide) hstart
  rw [hside] at hpage
  obtain ⟨p, hfind, hitems, hnext, hfirst, hlast, -⟩ := hpage
  have hcursor : o.codec.toCursor 2 = "2" := rfl
  refine ⟨hstart, p, hfind, hitems, hnext.2 (by decide), ?_, ?_⟩
  · rw [hfirst, ← hcursor]
    rfl
  · rw [hlast, ← hcursor]
    rfl

/-- A codec may write nothing for a key. Both cursors are then empty although a row is shown. -/
theorem find_shows_row_with_empty_cursors :
    let m : OrderedMap UInt64 String := ⟨[(1, "a")], by decide⟩
    let codec : CursorCodec UInt64 := ⟨CursorCodec.decimal.parse, fun _ => ""⟩
    let o : Options (String → Bool) UInt64 := ⟨fun _ => true, false, codec⟩
    ∃ p : Page String, find (.ofAfter "" 1) m.source o (fun v => pure v) = pure p ∧
      p.items = ["a"] ∧ ¬ (p.info.firstCursor = "" ∧ p.info.lastCursor = "" ↔ p.items = []) :=
  ⟨⟨["a"], ⟨"", "", false⟩⟩, rfl, rfl, by simp⟩

end Page

end Chronicle
