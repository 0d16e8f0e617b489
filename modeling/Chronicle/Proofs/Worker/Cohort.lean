-- SUMMARY: Cohorts that share a database are answered as if each had a counter of its own.
import Chronicle.Proofs.Store.Bytes
import Chronicle.Proofs.Store.OrderedMap
import Chronicle.Worker.Cohort

/-!
# Cohorts of one database

Any number of handles is open to a database, each to the count of one cohort, and requests come in
through all of them in any order. A request changes the bytes stored for its own cohort and no
others, since names are keys. So what happens to a cohort is what would happen to a counter that
starts from the stored count and gets the requests to that cohort alone.
-/

namespace Chronicle

/-! ## Requests -/

/-- What can be asked of a count of leases. -/
inductive Ask where
  /-- The count as it is. -/
  | count
  /-- One more lease, for the new count. -/
  | increment
  /-- One more lease, for its worker id. -/
  | acquire
  deriving DecidableEq

inductive Reply where
  | count (n : UInt64)
  | workerId (w : UInt16)
  deriving DecidableEq

/-- The reply to a request for one more lease that leads to a count. -/
def Ask.leased (a : Ask) (count : UInt64) : Reply :=
  match a with
  | .acquire => .workerId (workerIdOfCount count)
  | _ => .count count

/-- The count after a request. -/
def Ask.counted (a : Ask) (count : UInt64) : UInt64 :=
  match a with
  | .count => count
  | _ => count + 1

theorem Ask.counted_of_ne {a : Ask} (h : a ≠ .count) (count : UInt64) :
    a.counted count = count + 1 := by
  cases a with
  | count => exact absurd rfl h
  | _ => rfl

def Counter.reply (c : Counter) : Ask → Reply × Counter
  | .count => (.count c.count, c)
  | .increment => (.count c.increment.1, c.increment.2)
  | .acquire => (.workerId c.acquire.1, c.acquire.2)

/-- The replies to requests one after another, with the counter in the end. -/
def Counter.replies (c : Counter) : List Ask → List Reply × Counter
  | [] => ([], c)
  | a :: asks =>
    let (reply, c) := c.reply a
    let (rest, c) := c.replies asks
    (reply :: rest, c)

def Cohort.reply (c : Cohort) (db : Database) : Ask → Reply × Database
  | .count => (.count (c.count db), db)
  | .increment => (.count (c.increment db).1, (c.increment db).2)
  | .acquire => (.workerId (c.acquire db).1, (c.acquire db).2)

/-! ## Registries -/

/-- A database with the handles that are open to it, in the order of their opening. -/
structure Registry where
  db : Database
  handles : List Cohort := []

namespace Registry

/-- What can happen next. -/
inductive Event where
  /-- A handle is opened to the cohort of a name. -/
  | enroll (name : String)
  /-- A request comes in through the handle of this number. -/
  | ask (handle : Nat) (a : Ask)
  /-- The database is closed, and all handles with it, and opened again. -/
  | reopen

/-- A request that was answered. -/
structure Entry where
  cohort : Cohort
  ask : Ask
  reply : Reply

def next (r : Registry) : Event → Registry
  | .enroll name =>
    match Cohort.ofName name with
    | .ok c => { r with handles := r.handles ++ [c] }
    | .error _ => r
  | .ask i a =>
    match r.handles[i]? with
    | some c => { r with db := (c.reply r.db a).2 }
    | none => r
  | .reopen => { r with handles := [] }

/-- The request of an event and the answer to it. -/
def answered? (r : Registry) : Event → Option Entry
  | .ask i a => r.handles[i]?.map fun c => ⟨c, a, (c.reply r.db a).1⟩
  | _ => none

def run (r : Registry) (events : List Event) : Registry :=
  events.foldl next r

/-- The requests that were answered in a run, in order. -/
def history (r : Registry) : List Event → List Entry
  | [] => []
  | e :: events => (r.answered? e).toList ++ (r.next e).history events

/-- The part of a run that a cohort sees. -/
def seenBy (c : Cohort) (log : List Entry) : List Entry :=
  log.filter (·.cohort = c)

/-- The requests that each took one more lease. -/
def leases (log : List Entry) : List Entry :=
  log.filter (·.ask ≠ .count)

end Registry

/-! ## One request -/

theorem Counter.reply_eq (c : Counter) (a : Ask) :
    c.reply a = (if a = .count then .count c.count else a.leased (c.count + 1),
      ⟨a.counted c.count⟩) := by
  cases a <;> rfl

namespace Cohort

variable {c d : Cohort} {db : Database} {a : Ask}

theorem key_injective (h : c.key = d.key) : c = d := by
  obtain ⟨name, hname⟩ := c
  obtain rfl := Bytes.ofString_injective h
  rfl

/-- Bytes stored for a cohort leave those of other cohorts as they are. -/
theorem stored_store_of_ne (h : c ≠ d) (b : Bytes) : c.stored (d.store db b) = c.stored db := by
  rw [stored, store, Database.tree_setTree_self,
    OrderedMap.get?_insert_of_ne fun hkey => h (key_injective hkey)]
  rfl

theorem stored_reply_of_ne (h : c ≠ d) : c.stored (d.reply db a).2 = c.stored db := by
  cases a with
  | count => rfl
  | increment | acquire => exact stored_store_of_ne h _

/-- A request to the stored count is a request to the counter that it stands for. -/
theorem reply_eq_counter (c : Cohort) (db : Database) (a : Ask) :
    ((c.reply db a).1, c.counter (c.reply db a).2) = (c.counter db).reply a := by
  cases a with
  | count => rfl
  | increment | acquire => exact Prod.ext rfl (c.counter_increment db)

/-- Eight stored bytes stand for the number that they spell, and any others for zero. -/
theorem toNat_countOfBytes (b : Option Bytes) :
    (countOfBytes b).toNat
      = match b with
        | some b => if b.length = 8 then b.value else 0
        | none => 0 := by
  cases b with
  | none => rfl
  | some b =>
    simp only
    split
    next hlength =>
      obtain ⟨w, hw, hvalue⟩ := Bytes.toWord?_eq_some hlength
      simp [countOfBytes, hw, hvalue]
    next hlength => simp [countOfBytes, Bytes.toWord?, hlength]

end Cohort

/-! ## Whole runs -/

namespace Registry

variable {r : Registry} {e : Event} {c : Cohort} {entry : Entry}

theorem reply_of_answered (h : r.answered? e = some entry) :
    (entry.reply, entry.cohort.counter (r.next e).db)
      = (entry.cohort.counter r.db).reply entry.ask := by
  cases e with
  | ask i a =>
    obtain ⟨d, hd, rfl⟩ := Option.map_eq_some_iff.1 h
    simp only [next, hd]
    exact d.reply_eq_counter r.db a
  | _ => cases h

/-- Only an answered request to a cohort changes what is stored for it. -/
theorem stored_next (h : ∀ entry ∈ r.answered? e, entry.cohort ≠ c) :
    c.stored (r.next e).db = c.stored r.db := by
  cases e with
  | enroll name =>
    rw [next]
    split <;> rfl
  | ask i a =>
    cases hd : r.handles[i]? with
    | none => simp only [next, hd]
    | some d =>
      have hne : d ≠ c := h ⟨d, a, _⟩ (Option.map_eq_some_iff.2 ⟨d, hd, rfl⟩)
      simp only [next, hd]
      exact Cohort.stored_reply_of_ne hne.symm
  | reopen => rfl

/-- In a run, a cohort is answered as a counter that gets its requests alone. -/
theorem replies_seenBy (r : Registry) (events : List Event) (c : Cohort) :
    (c.counter r.db).replies ((seenBy c (r.history events)).map (·.ask))
      = ((seenBy c (r.history events)).map (·.reply), c.counter (r.run events).db) := by
  induction events generalizing r with
  | nil => rfl
  | cons e events ih =>
    have ih := ih (r.next e)
    have hrun : r.run (e :: events) = (r.next e).run events := rfl
    rw [hrun, history, seenBy, List.filter_append]
    by_cases hmine : ∃ entry, r.answered? e = some entry ∧ entry.cohort = c
    · obtain ⟨entry, hentry, rfl⟩ := hmine
      have hreply := reply_of_answered hentry
      have hself : [entry].filter (·.cohort = entry.cohort) = [entry] := by simp
      rw [hentry, Option.toList_some, hself, List.singleton_append, List.map_cons, List.map_cons,
        Counter.replies, ← hreply]
      exact congrArg (fun rest => (entry.reply :: rest.1, rest.2)) ih
    · have hother : ∀ entry ∈ r.answered? e, entry.cohort ≠ c := fun entry hentry heq =>
        hmine ⟨entry, hentry, heq⟩
      have hnone : ((r.answered? e).toList.filter (·.cohort = c)) = [] :=
        List.filter_eq_nil_iff.2 fun entry hentry => by
          simpa using hother entry (Option.mem_toList.1 hentry)
      have hcounter : c.counter (r.next e).db = c.counter r.db :=
        congrArg (fun b => Counter.mk (Cohort.countOfBytes b)) (stored_next hother)
      rw [hnone, List.nil_append, ← hcounter]
      exact ih

end Registry

/-! ## The counts of leases -/

/-- The replies of a counter to requests for leases lead to one count after the other. -/
theorem Counter.replies_leases (c : Counter) {log : List Registry.Entry}
    (h : (c.replies (log.map (·.ask))).1 = log.map (·.reply)) :
    (Registry.leases log).map (·.reply)
      = (Registry.leases log).mapIdx
          fun j entry => entry.ask.leased (c.count + UInt64.ofNat (j + 1)) := by
  induction log generalizing c with
  | nil => rfl
  | cons entry log ih =>
    rw [List.map_cons, List.map_cons, replies, reply_eq, List.cons.injEq] at h
    obtain ⟨hreply, hrest⟩ := h
    have ih := ih _ hrest
    by_cases hcount : entry.ask = .count
    · -- the count stays as it is
      have hleases : Registry.leases (entry :: log) = Registry.leases log :=
        List.filter_cons_of_neg (by simp [hcount])
      rw [hcount] at ih
      rw [hleases]
      exact ih
    · have hleases : Registry.leases (entry :: log) = entry :: Registry.leases log :=
        List.filter_cons_of_pos (by simp [hcount])
      have hnext : ∀ j, entry.ask.counted c.count + UInt64.ofNat (j + 1)
          = c.count + UInt64.ofNat (j + 1 + 1) := by
        intro j
        rw [Ask.counted_of_ne hcount, UInt64.ofNat_add (j + 1) 1, UInt64.add_assoc,
          UInt64.add_comm 1]
        rfl
      rw [hleases, List.map_cons, List.mapIdx_cons, ← hreply, if_neg hcount]
      simp only [hnext] at ih
      exact congrArg _ ih

/-- Words that follow one another are distinct, as long as there are no more than there are
words. -/
theorem nodup_following (first : UInt64) {k : Nat} (hk : k ≤ UInt64.size) :
    ((List.range k).map fun j => first + UInt64.ofNat (j + 1)).Nodup := by
  refine List.Nodup.map_on ?_ List.nodup_range
  intro i hi j hj heq
  rw [List.mem_range] at hi hj
  have hsame := congrArg UInt64.toNat heq
  simp only [UInt64.toNat_add, UInt64.toNat_ofNat'] at hsame
  simp only [UInt64.size] at hk
  omega

namespace Registry

/-- Whatever bytes a database holds, and however requests to any number of cohorts come in through
any number of handles, with the database closed and opened again in between: a handle can be opened
under any name but the empty one. The replies to a cohort are those of a counter that starts from
the stored count and gets the requests to that cohort alone, and the stored count ends where that
counter ends; eight stored bytes are read as a big-endian number, and others as zero. Only requests
to a cohort change the bytes stored for it. Its leases lead to the counts after the first, one
after the other, and these are distinct as long as there are no more than there are words. -/
theorem cohorts_answer_as_counters (db : Database) (events : List Event) (c : Cohort) :
    let r := (Registry.mk db []).run events
    let mine := seenBy c ((Registry.mk db []).history events)
    let first := c.counter db
    (∀ name (h : name ≠ ""), r.next (.enroll name) = { r with handles := r.handles ++ [⟨name, h⟩] }) ∧
    first.replies (mine.map (·.ask)) = (mine.map (·.reply), c.counter r.db) ∧
    first.count.toNat
      = (match c.stored db with
        | some b => if b.length = 8 then b.value else 0
        | none => 0) ∧
    (∀ e, (∀ entry ∈ r.answered? e, entry.cohort ≠ c) →
      c.stored (r.next e).db = c.stored r.db) ∧
    (leases mine).map (·.reply)
      = (leases mine).mapIdx (fun j entry => entry.ask.leased (first.count + UInt64.ofNat (j + 1))) ∧
    ((leases mine).length ≤ UInt64.size →
      ((List.range (leases mine).length).map fun j => first.count + UInt64.ofNat (j + 1)).Nodup) := by
  intro r mine first
  have hreplies : first.replies (mine.map (·.ask)) = (mine.map (·.reply), c.counter r.db) :=
    replies_seenBy (Registry.mk db []) events c
  refine ⟨?enroll, hreplies, Cohort.toNat_countOfBytes _, fun e => stored_next, ?leased,
    nodup_following first.count⟩
  case enroll =>
    intro name h
    simp [next, Cohort.ofName, h]
  case leased => exact first.replies_leases (congrArg Prod.fst hreplies)

/-- One cohort is at the greatest count, and the bytes stored for the other one are no word. -/
theorem cohorts_answer_as_counters_wrapped :
    let a : Cohort := ⟨"a", by decide⟩
    let b : Cohort := ⟨"b", by decide⟩
    let db := a.store (b.store .empty [1, 2, 3]) (Bytes.ofWord Word.greatest)
    let events : List Event :=
      [.enroll "a", .enroll "b", .enroll "a", .ask 0 .increment, .ask 1 .acquire,
        .ask 2 .increment, .reopen, .enroll "a", .ask 0 .count, .ask 0 .acquire]
    let log := (Registry.mk db []).history events
    (seenBy a log).map (·.reply) = [.count 0, .count 1, .count 1, .workerId 2] ∧
      (seenBy b log).map (·.reply) = [.workerId 1] ∧ (leases (seenBy a log)).length = 3 ∧
      ((List.range 3).map fun j => Word.greatest + UInt64.ofNat (j + 1)).Nodup := by
  intro a b db events log
  obtain ⟨-, ha, -, -, -, hdistinct⟩ := cohorts_answer_as_counters db events a
  obtain ⟨-, hb, -⟩ := cohorts_answer_as_counters db events b
  have hlength : (leases (seenBy a log)).length = 3 := by decide +kernel
  have hfirst : (a.counter db).count = Word.greatest := by decide +kernel
  refine ⟨?_, ?_, hlength, ?_⟩
  · exact (congrArg Prod.fst ha).symm.trans (by decide +kernel)
  · exact (congrArg Prod.fst hb).symm.trans (by decide +kernel)
  · rw [← hfirst, ← hlength]
    exact hdistinct (by rw [hlength]; decide)

end Registry

end Chronicle
