-- SUMMARY: Finite maps held as strictly ascending lists of entries, read from any key in either direction.

/-!
# Ordered maps

The entries of a map are a list in which every key is below the keys after it, so a map is equal to
another as soon as they hold the same entries. A read starts strictly beyond a key and moves away
from it, upwards or downwards.
-/

namespace Chronicle

/-- Which way an ordered read moves. -/
inductive Direction where
  | ascending
  | descending
  deriving DecidableEq

def Direction.reverse : Direction → Direction
  | .ascending => .descending
  | .descending => .ascending

@[simp] theorem Direction.reverse_reverse (d : Direction) : d.reverse.reverse = d := by
  cases d <;> rfl

/-- A finite map as its entries in ascending order of keys. -/
structure OrderedMap (K V : Type) [Ord K] where
  entries : List (K × V)
  ascending : entries.Pairwise fun a b => compare a.1 b.1 = .lt

namespace OrderedMap

variable {K V : Type} [Ord K]

@[ext] theorem ext {m n : OrderedMap K V} (h : m.entries = n.entries) : m = n := by
  cases m; cases n; cases h; rfl

/-! ## Reading -/

def empty : OrderedMap K V := ⟨[], .nil⟩

def size (m : OrderedMap K V) : Nat :=
  m.entries.length

def isEmpty (m : OrderedMap K V) : Bool :=
  m.entries.isEmpty

def get? (m : OrderedMap K V) (k : K) : Option V :=
  (m.entries.find? fun e => compare e.1 k == .eq).map Prod.snd

/-- The entries with keys below `k`. -/
def below (m : OrderedMap K V) (k : K) : List (K × V) :=
  m.entries.filter fun e => compare e.1 k == .lt

/-- The entries with keys above `k`. -/
def above (m : OrderedMap K V) (k : K) : List (K × V) :=
  m.entries.filter fun e => compare e.1 k == .gt

/-- The entries strictly beyond a key, or all of them, in the order of the read. -/
def beyond (m : OrderedMap K V) (start : Option K) (d : Direction) : List (K × V) :=
  match d, start with
  | .ascending, none => m.entries
  | .ascending, some k => m.above k
  | .descending, none => m.entries.reverse
  | .descending, some k => (m.below k).reverse

theorem mem_below {m : OrderedMap K V} {k : K} {e : K × V} :
    e ∈ m.below k ↔ e ∈ m.entries ∧ compare e.1 k = .lt := by
  simp [below]

theorem mem_above {m : OrderedMap K V} {k : K} {e : K × V} :
    e ∈ m.above k ↔ e ∈ m.entries ∧ compare e.1 k = .gt := by
  simp [above]

/-! ## Writing -/

theorem ascending_insert [Std.TransOrd K] (m : OrderedMap K V) (k : K) (v : V) :
    (m.below k ++ (k, v) :: m.above k).Pairwise fun a b => compare a.1 b.1 = .lt := by
  refine List.pairwise_append.2 ⟨m.ascending.filter _, List.pairwise_cons.2 ⟨fun b hb => ?_,
    m.ascending.filter _⟩, fun a ha b hb => ?_⟩
  · exact Std.OrientedCmp.gt_iff_lt.1 (mem_above.1 hb).2
  · have hk := (mem_below.1 ha).2
    rcases List.mem_cons.1 hb with rfl | hb
    · exact hk
    · exact Std.TransCmp.lt_trans hk (Std.OrientedCmp.gt_iff_lt.1 (mem_above.1 hb).2)

/-- Store `v` under `k` in place of what was stored there. -/
def insert [Std.TransOrd K] (m : OrderedMap K V) (k : K) (v : V) : OrderedMap K V :=
  ⟨m.below k ++ (k, v) :: m.above k, m.ascending_insert k v⟩

/-- Drop what is stored under `k`. -/
def erase (m : OrderedMap K V) (k : K) : OrderedMap K V :=
  ⟨m.entries.filter fun e => compare e.1 k != .eq, m.ascending.filter _⟩

@[simp] theorem entries_insert [Std.TransOrd K] (m : OrderedMap K V) (k : K) (v : V) :
    (m.insert k v).entries = m.below k ++ (k, v) :: m.above k := rfl

@[simp] theorem get?_insert_self [Std.TransOrd K] (m : OrderedMap K V) (k : K) (v : V) :
    (m.insert k v).get? k = some v := by
  have h : (m.below k).find? (fun e => compare e.1 k == .eq) = none :=
    List.find?_eq_none.2 fun e he => by simp [(mem_below.1 he).2]
  simp [get?, h]

@[simp] theorem get?_erase_self (m : OrderedMap K V) (k : K) : (m.erase k).get? k = none := by
  simp [get?, erase]

end OrderedMap

end Chronicle
