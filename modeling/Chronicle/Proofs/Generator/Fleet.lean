-- SUMMARY: Generators that share one count of leases, and what a repeated identifier tells of their leases.
import Chronicle.Proofs.Generator.Traffic
import Chronicle.Worker.Cohort

/-!
# Fleets

The members of a fleet are generators with settings, surroundings and callers of their own. All
they share is a count of leases. The increments of that count are numbered from zero in the order
in which they happen, those included of which no caller hears. Worker ids are counts modulo 512, so
two members can hold the same one only if their increments are a multiple of 512 apart; the wrap of
the count does no harm, since 512 divides the number of words.
-/

namespace Chronicle.Generator

/-! ## Shared counts -/

/-- A count that generators share: one in memory, or the one of a cohort in a database. -/
inductive SharedCount where
  | counter (c : Counter)
  | cohort (c : Cohort) (db : Database)

namespace SharedCount

def count : SharedCount → UInt64
  | .counter c => c.count
  | .cohort c db => c.count db

def increment : SharedCount → UInt64 × SharedCount
  | .counter c => (c.increment.1, .counter c.increment.2)
  | .cohort c db => ((c.increment db).1, .cohort c (c.increment db).2)

theorem fst_increment (s : SharedCount) : s.increment.1 = s.count + 1 := by
  cases s <;> rfl

@[simp] theorem count_increment (s : SharedCount) : s.increment.2.count = s.count + 1 := by
  cases s with
  | counter c => rfl
  | cohort c db =>
    show (c.counter (c.increment db).2).count = _
    rw [Cohort.counter_increment]
    rfl

end SharedCount

variable {ω : Type} {W : World ω}

/-- Surroundings like `W`, but with a shared count. A call to the store gets through where one to
the store of `W` succeeds; a call that fails counts nothing. -/
def World.sharing (W : World ω) : World (ω × SharedCount) where
  nowMs w := W.nowMs w.1
  draw w := ((W.draw w.1).1, (W.draw w.1).2, w.2)
  countLease w :=
    match W.countLease w.1 with
    | (.ok _, v) => (.ok w.2.increment.1, v, w.2.increment.2)
    | (.error f, v) => (.error f, v, w.2)
  sleep d w := (W.sleep d w.1, w.2)

/-! ## Runs of a fleet -/

/-- What happens at a member: a deed of one of its callers, or an increment of the shared count that
its caller never hears of, since the call fails after it or the caller is gone. -/
inductive Fleet.Entry where
  | deed (member caller : Nat) (deed : Deed)
  | lost (member : Nat)

/-- What can come next in a fleet: an event at a member, or an increment that is lost on its
caller. -/
inductive Fleet.Event (ω : Type) where
  | traffic (member : Nat) (event : Generator.Event ω)
  | lost (member : Nat)

structure Fleet (ω : Type) where
  shared : SharedCount
  members : List (Traffic ω)
  /-- All that has happened so far, the last first. -/
  log : List Fleet.Entry

/-- The traffic at a member as it meets the shared count. -/
def Traffic.joined (t : Traffic ω) (s : SharedCount) : Traffic (ω × SharedCount) :=
  ⟨⟨t.scene.generator, (t.scene.world, s)⟩, t.callers⟩

/-- The traffic at a member without the shared count. -/
def Traffic.apart (t : Traffic (ω × SharedCount)) : Traffic ω :=
  ⟨⟨t.scene.generator, t.scene.world.1⟩, t.callers⟩

/-- An event at a member; no drift touches the shared count. -/
def Event.joined (s : SharedCount) : Event ω → Event (ω × SharedCount)
  | .arrive wish => .arrive wish
  | .turn i => .turn i
  | .leave i => .leave i
  | .drift world => .drift (world, s)

namespace Fleet

/-- Generators that nobody has come to, each with its settings and its surroundings. -/
def start (shared : SharedCount) (members : List (Config × ω)) : Fleet ω :=
  ⟨shared, members.map fun m => .start m.1 m.2, []⟩

/-- The log with one more deed, if there is one. -/
def record (member : Nat) (log : List Entry) : Option (Nat × Deed) → List Entry
  | some (caller, deed) => .deed member caller deed :: log
  | none => log

/-- What an event leaves behind. Events at members that do not exist change nothing. -/
def next (W : World ω) (f : Fleet ω) : Event ω → Fleet ω
  | .lost g => { f with shared := f.shared.increment.2, log := .lost g :: f.log }
  | .traffic g e =>
    match f.members[g]? with
    | none => f
    | some t =>
      let t := t.joined f.shared
      let after := t.next W.sharing (e.joined f.shared)
      { shared := after.scene.world.2
        members := f.members.set g after.apart
        log := record g f.log (t.deed? W.sharing (e.joined f.shared)) }

def run (W : World ω) (f : Fleet ω) (events : List (Event ω)) : Fleet ω :=
  events.foldl (next W) f

/-! ## Reading the log -/

/-- The members that incremented the count, in the order of the increments: increment number `k`
was made by the member in place `k`. -/
def increments : List Entry → List Nat
  | [] => []
  | .deed g _ d :: past => if d.count?.isSome then increments past ++ [g] else increments past
  | .lost g :: past => increments past ++ [g]

/-- The number of the last increment that a caller made and heard of. -/
def grantNumber? (member caller : Nat) : List Entry → Option Nat
  | [] => none
  | .deed g i d :: past =>
    if d.count?.isSome ∧ g = member ∧ i = caller then some (increments past).length
    else grantNumber? member caller past
  | .lost _ :: past => grantNumber? member caller past

/-- The number of the increment from which the lease of a member comes: the one made by the caller
that installed the lease. -/
def leaseNumber? (member : Nat) : List Entry → Option Nat
  | [] => none
  | .deed g i d :: past =>
    if d.installed?.isSome ∧ g = member then grantNumber? member i past
    else leaseNumber? member past
  | .lost _ :: past => leaseNumber? member past

/-- An identifier issued by a member, with the number of the increment from which the lease held
at the time came. -/
structure Issue where
  member : Nat
  id : Uid
  number : Option Nat
  deriving DecidableEq

/-- The identifiers issued by all members, the last one first. -/
def issues : List Entry → List Issue
  | [] => []
  | .deed g _ d :: past =>
    match d.issued? with
    | some id => ⟨g, id, leaseNumber? g past⟩ :: issues past
    | none => issues past
  | .lost _ :: past => issues past

/-- The last identifier issued by a member. -/
def last? (member : Nat) (log : List Entry) : Option Uid :=
  ((issues log).find? (·.member == member)).map (·.id)

/-! ## Increments of the shared count -/

end Fleet

namespace World

@[simp] theorem shared_drawBelow (s : Scene (ω × SharedCount)) (bound : UInt64) :
    (s.drawBelow W.sharing bound).2.world.2 = s.world.2 := by
  simp only [Scene.drawBelow, World.drawBelow]
  split <;> rfl

@[simp] theorem shared_poll (s : Scene (ω × SharedCount)) :
    (s.poll W.sharing).2.world.2 = s.world.2 := by
  unfold Scene.poll
  simp only
  split
  next => simp only [Scene.setState, shared_drawBelow]
  next => rfl

@[simp] theorem shared_install (s : Scene (ω × SharedCount)) (w : UInt16) :
    (s.install W.sharing w).2.world.2 = s.world.2 := by
  rcases s.world_install (W := W.sharing) w with hworld | hworld
  · rw [hworld]
  · rw [hworld]
    rfl

end World

/-- The shared count goes up by one when a caller is given a count, which is then the new one, and
stays as it is otherwise. -/
theorem Caller.Step.count_shared {c c' : Caller} {s s' : Scene (ω × SharedCount)} {d : Deed}
    (h : Step W.sharing c s d c' s') :
    match d.count? with
    | some n => n = s.world.2.count + 1 ∧ s'.world.2.count = s.world.2.count + 1
    | none => s'.world.2.count = s.world.2.count := by
  cases h with
  | poll => simp [Deed.count?]
  | install w | overflow w => exact congrArg SharedCount.count (World.shared_install s w)
  | count attempt n hstage hanswer =>
    simp only [World.sharing] at hanswer ⊢
    split at hanswer
    next k v heq =>
      cases hanswer
      simp [Deed.count?, SharedCount.fst_increment]
    next => cases hanswer
  | fail attempt f hstage hanswer =>
    simp only [World.sharing] at hanswer ⊢
    split at hanswer
    next => cases hanswer
    next f v heq => simp [Deed.count?]
  | giveUp attempt f hstage hanswer =>
    simp only [World.sharing] at hanswer ⊢
    split at hanswer
    next => cases hanswer
    next f v heq => simp [Deed.count?, Scene.setGate]
  | _ => rfl

theorem Traffic.Next.count_shared {t : Traffic ω} {t' : Traffic (ω × SharedCount)}
    {s : SharedCount} {e : Event ω} {d : Option (Nat × Deed)}
    (h : (t.joined s).Next W.sharing (e.joined s) d t') :
    match d.bind (·.2.count?) with
    | some n => n = s.count + 1 ∧ t'.scene.world.2.count = s.count + 1
    | none => t'.scene.world.2.count = s.count := by
  cases e with
  | arrive wish => cases h; rfl
  | turn i =>
    cases h with
    | turn i hi hstep => exact hstep.count_shared
    | idle => rfl
  | leave i =>
    cases h with
    | leave i hi =>
      simp only [Option.bind_none]
      split <;> rfl
    | absent => rfl
  | drift world => cases h; rfl

namespace Fleet

/-! ## The log with one more deed -/

variable {origin : UInt64} {log : List Entry} {d : Option (Nat × Deed)} {g : Nat}

@[simp] theorem increments_record :
    increments (record g log d)
      = if (d.bind (·.2.count?)).isSome then increments log ++ [g] else increments log := by
  cases d <;> rfl

theorem issues_record :
    issues (record g log d)
      = ((d.bind (·.2.issued?)).map fun id => ⟨g, id, leaseNumber? g log⟩).toList
        ++ issues log := by
  cases d with
  | none => rfl
  | some x => cases hid : x.2.issued? <;> simp [record, issues, hid]

theorem last?_record_self :
    last? g (record g log d) = (d.bind (·.2.issued?)).or (last? g log) := by
  rw [last?, issues_record]
  cases d.bind (·.2.issued?) with
  | none => rfl
  | some id => simp

theorem last?_record_ne {g' : Nat} (hne : g ≠ g') :
    last? g' (record g log d) = last? g' log := by
  rw [last?, issues_record]
  cases d.bind (·.2.issued?) with
  | none => rfl
  | some id => simp [last?, hne]

theorem grantNumber?_record_ne {g' j : Nat} (h : g ≠ g' ∨ ∀ x, d ≠ some (j, x)) :
    grantNumber? g' j (record g log d) = grantNumber? g' j log := by
  cases d with
  | none => rfl
  | some x =>
    obtain ⟨i, x⟩ := x
    rw [record, grantNumber?, if_neg]
    rintro ⟨-, hg, hi⟩
    rcases h with hne | hne
    · exact hne hg
    · exact hne x (by rw [show i = j from hi])

theorem leaseNumber?_record_ne {g' : Nat} (hne : g ≠ g') :
    leaseNumber? g' (record g log d) = leaseNumber? g' log := by
  cases d with
  | none => rfl
  | some x =>
    rw [record, leaseNumber?, if_neg]
    exact fun h => hne h.2

/-! ## The invariant -/

/-- Increment number `k` was made by a member, and `w` is the worker id of its count. -/
def Backs (origin : UInt64) (log : List Entry) (member : Nat) (w : UInt16) (k : Nat) : Prop :=
  (increments log)[k]? = some member ∧ w.toNat = (origin.toNat + k + 1) % 512

/-- Further increments do not renumber those made before. -/
theorem Backs.mono {log' : List Entry} {g k : Nat} {w : UInt16} (h : Backs origin log g w k)
    (hpast : increments log <+: increments log') : Backs origin log' g w k := by
  obtain ⟨more, hmore⟩ := hpast
  have hk := (List.getElem?_eq_some_iff.1 h.1).1
  refine ⟨?_, h.2⟩
  rw [← hmore, List.getElem?_append_left hk]
  exact h.1

theorem Backs.record {g' k : Nat} {w : UInt16} (h : Backs origin log g' w k) :
    Backs origin (record g log d) g' w k := by
  refine h.mono ?_
  rw [increments_record]
  split
  next => exact List.prefix_append _ _
  next => exact List.prefix_rfl

theorem Backs.lost {g' k : Nat} {w : UInt16} (h : Backs origin log g' w k) :
    Backs origin (.lost g :: log) g' w k :=
  h.mono (List.prefix_append _ _)

/-- What the log says of a member: the last identifier it issued, and for every worker id granted
to a caller or held under a lease the increment from which it comes. -/
structure MemberSound (origin : UInt64) (log : List Entry) (g : Nat) (t : Traffic ω) : Prop where
  traffic : t.Sound (last? g log)
  granted : ∀ i c w, t.caller? i = some c → c.stage = .granted w →
    ∃ k, grantNumber? g i log = some k ∧ Backs origin log g w k
  leased : ∀ l ∈ t.scene.state.lease,
    ∃ k, leaseNumber? g log = some k ∧ Backs origin log g l.workerId k

/-- The deeds of other members do not concern a member. -/
theorem MemberSound.other {g' : Nat} {t : Traffic ω} (h : MemberSound origin log g' t)
    (hne : g ≠ g') : MemberSound origin (record g log d) g' t where
  traffic := by
    rw [last?_record_ne hne]
    exact h.traffic
  granted := by
    intro i c w hc hw
    obtain ⟨k, hk, hb⟩ := h.granted i c w hc hw
    exact ⟨k, by rw [grantNumber?_record_ne (.inl hne), hk], hb.record⟩
  leased := by
    intro l hl
    obtain ⟨k, hk, hb⟩ := h.leased l hl
    exact ⟨k, by rw [leaseNumber?_record_ne hne, hk], hb.record⟩

/-- A member with any count is as sound as its traffic. -/
theorem MemberSound.joined {t : Traffic ω} (h : MemberSound origin log g t) (s : SharedCount) :
    (t.joined s).Sound (last? g log) :=
  ⟨h.traffic.state, h.traffic.granted⟩

/-- An increment that is lost on its caller does not concern any member. -/
theorem MemberSound.lost {g' : Nat} {t : Traffic ω} (h : MemberSound origin log g' t) :
    MemberSound origin (.lost g :: log) g' t where
  traffic := h.traffic
  granted := by
    intro i c w hc hw
    obtain ⟨k, hk, hb⟩ := h.granted i c w hc hw
    exact ⟨k, hk, hb.lost⟩
  leased := by
    intro l hl
    obtain ⟨k, hk, hb⟩ := h.leased l hl
    exact ⟨k, hk, hb.lost⟩

/-- An event at a member keeps what the log says of it, if the count agrees with the log. -/
theorem MemberSound.next {t : Traffic ω} (h : MemberSound origin log g t) {s : SharedCount}
    (hcount : s.count.toNat % 512 = (origin.toNat + (increments log).length) % 512)
    {e : Generator.Event ω} {t' : Traffic (ω × SharedCount)}
    (hnext : (t.joined s).Next W.sharing (e.joined s) d t') :
    MemberSound origin (record g log d) g t'.apart where
  traffic := by
    obtain ⟨hs, -⟩ := (h.joined s).next hnext
    rw [last?_record_self]
    exact ⟨hs.state, hs.granted⟩
  granted := by
    intro j c w hc hw
    rcases hnext.granted hc hw with ⟨hold, hother⟩ | ⟨n, rfl, rfl⟩
    · obtain ⟨k, hk, hb⟩ := h.granted j c w hold hw
      exact ⟨k, by rw [grantNumber?_record_ne (.inr hother), hk], hb.record⟩
    · have hn : n = s.count + 1 := hnext.count_shared.1
      refine ⟨(increments log).length, ?_, ?_, ?_⟩
      · simp [record, grantNumber?, Deed.count?]
      · simp [Deed.count?]
      · simp only [toNat_workerIdOfCount, hn, UInt64.toNat_add, UInt64.reduceToNat]
        omega
  leased := by
    intro l hl
    have hlease : t'.scene.state.lease = _ := hnext.lease_eq
    rw [show t'.apart.scene.state.lease = t'.scene.state.lease from rfl, hlease] at hl
    cases hd : d.bind (·.2.installed?) with
    | none =>
      rw [hd, Option.none_or] at hl
      obtain ⟨k, hk, hb⟩ := h.leased l hl
      refine ⟨k, ?_, hb.record⟩
      cases d with
      | none => exact hk
      | some x =>
        have hx : x.2.installed? = none := hd
        rw [record, leaseNumber?, if_neg (by simp [hx]), hk]
    | some l' =>
      rw [hd, Option.some_or] at hl
      cases hl
      obtain ⟨⟨i, x⟩, rfl, hx⟩ := Option.bind_eq_some_iff.1 hd
      obtain ⟨c, hc, hstage⟩ := hnext.installed rfl hx
      obtain ⟨k, hk, hb⟩ := h.granted i c l.workerId hc hstage
      refine ⟨k, ?_, hb.record⟩
      rw [record, leaseNumber?, if_pos ⟨Option.isSome_of_eq_some hx, rfl⟩, hk]

/-- The invariant of a fleet whose count was `origin`: the count agrees with the log, every
identifier issued comes from an increment by its member, and each member issues in order. -/
structure Sound (origin : UInt64) (f : Fleet ω) : Prop where
  count : f.shared.count.toNat % 512 = (origin.toNat + (increments f.log).length) % 512
  members : ∀ g t, f.members[g]? = some t → MemberSound origin f.log g t
  backed : ∀ a ∈ issues f.log,
    ∃ k, a.number = some k ∧ Backs origin f.log a.member a.id.workerId k
  ascending : (issues f.log).Pairwise fun a b => a.member = b.member → b.id < a.id

theorem sound_start (shared : SharedCount) (members : List (Config × ω)) :
    (Fleet.start shared members).Sound shared.count where
  count := by simp [Fleet.start, increments]
  members := by
    intro g t ht
    rw [Fleet.start, List.getElem?_map, Option.map_eq_some_iff] at ht
    obtain ⟨m, -, rfl⟩ := ht
    have hs := Traffic.sound_start m.1 m.2
    refine ⟨hs, ?_, ?_⟩
    · intro i c w hc
      simp [Traffic.start, Traffic.caller?] at hc
    · intro l hl
      cases hl
  backed := by simp [Fleet.start, issues]
  ascending := by simp [Fleet.start, issues]

/-- No identifier of a member is above the last one it issued. -/
theorem exists_last? {log : List Entry}
    (h : (issues log).Pairwise fun a b => a.member = b.member → b.id < a.id) {b : Issue}
    (hb : b ∈ issues log) : ∃ u, last? b.member log = some u ∧ (b.id = u ∨ b.id < u) := by
  unfold last?
  generalize issues log = all at h hb ⊢
  induction all with
  | nil => cases hb
  | cons a rest ih =>
    obtain ⟨ha, hrest⟩ := List.pairwise_cons.1 h
    by_cases hab : a.member = b.member
    · refine ⟨a.id, by simp [hab], ?_⟩
      rcases List.mem_cons.1 hb with rfl | hmem
      · exact .inl rfl
      · exact .inr (ha b hmem hab)
    · rcases List.mem_cons.1 hb with rfl | hmem
      · exact absurd rfl hab
      · simpa [hab] using ih hrest hmem

/-- An event at any member keeps the invariant. -/
theorem Sound.traffic {origin : UInt64} {f : Fleet ω} (h : f.Sound origin) (g : Nat)
    (e : Generator.Event ω) : (f.next W (.traffic g e)).Sound origin := by
  simp only [Fleet.next]
  cases ht : f.members[g]? with
  | none => exact h
  | some t =>
    have hnext := (t.joined f.shared).next_spec W.sharing (e.joined f.shared)
    simp only
    generalize (t.joined f.shared).deed? W.sharing (e.joined f.shared) = d at hnext ⊢
    generalize (t.joined f.shared).next W.sharing (e.joined f.shared) = t' at hnext ⊢
    have hmember := h.members g t ht
    have hjoined := hmember.joined f.shared
    refine ⟨?count, ?members, ?backed, ?ascending⟩
    case count =>
      have hc := hnext.count_shared
      have hold := h.count
      simp only [increments_record]
      cases hd : d.bind (·.2.count?) with
      | none =>
        rw [hd] at hc
        simpa [hc] using hold
      | some n =>
        rw [hd] at hc
        -- the count may wrap, but its remainder by 512 goes on
        simp only [hc.2, Option.isSome_some, if_true, List.length_append, List.length_singleton,
          UInt64.toNat_add, UInt64.reduceToNat]
        omega
    case members =>
      intro g' t'' hg'
      by_cases hne : g = g'
      · subst hne
        have hlt := (List.getElem?_eq_some_iff.1 ht).1
        rw [List.getElem?_set_self hlt] at hg'
        cases hg'
        exact hmember.next h.count hnext
      · -- another member: the traffic is the old one, and the new deed is not its own
        rw [List.getElem?_set_ne hne] at hg'
        exact (h.members g' t'' hg').other hne
    case backed =>
      intro a ha
      simp only [issues_record] at ha
      rcases List.mem_append.1 ha with hnew | hold
      · obtain ⟨id, hid, rfl⟩ := Option.map_eq_some_iff.1 (Option.mem_toList.1 hnew)
        obtain ⟨l, hl, hw⟩ := hjoined.workerId_issued hnext hid
        obtain ⟨k, hk, hb⟩ := hmember.leased l hl
        exact ⟨k, hk, by rw [hw]; exact hb.record⟩
      · obtain ⟨k, hk, hb⟩ := h.backed a hold
        exact ⟨k, hk, hb.record⟩
    case ascending =>
      simp only [issues_record]
      cases hid : d.bind (·.2.issued?) with
      | none => exact h.ascending
      | some id =>
        refine List.pairwise_cons.2 ⟨?_, h.ascending⟩
        intro b hb hg
        obtain ⟨u, hu, hle⟩ := exists_last? h.ascending hb
        rw [← show g = b.member from hg] at hu
        have hlt : u < id := (hjoined.next hnext).2 id hid u hu
        rcases hle with heq | hbu
        · exact heq ▸ hlt
        · exact UInt64.lt_trans hbu hlt

/-- An increment that is lost on its caller keeps the invariant. -/
theorem Sound.lost {origin : UInt64} {f : Fleet ω} (h : f.Sound origin) (g : Nat) :
    (f.next W (.lost g)).Sound origin where
  count := by
    have hold := h.count
    simp only [Fleet.next, SharedCount.count_increment, increments, List.length_append,
      List.length_singleton, UInt64.toNat_add, UInt64.reduceToNat]
    omega
  members := fun g' t ht => (h.members g' t ht).lost
  backed := by
    intro a ha
    obtain ⟨k, hk, hb⟩ := h.backed a ha
    exact ⟨k, hk, hb.lost⟩
  ascending := h.ascending

theorem Sound.next {origin : UInt64} {f : Fleet ω} (h : f.Sound origin) (e : Event ω) :
    (f.next W e).Sound origin := by
  cases e with
  | traffic g e => exact h.traffic g e
  | lost g => exact h.lost g

/-! ## Runs -/

theorem Sound.run {origin : UInt64} {f : Fleet ω} (h : f.Sound origin)
    (events : List (Event ω)) : (f.run W events).Sound origin := by
  induction events generalizing f with
  | nil => exact h
  | cons e rest ih => exact ih (h.next e)

/-- Two members that issued the same identifier did so under leases from increments a multiple of
512 apart. -/
theorem Sound.number_of_ne {origin : UInt64} {f : Fleet ω} (h : f.Sound origin) {a b : Issue}
    (ha : a ∈ issues f.log) (hb : b ∈ issues f.log) (hne : a.member ≠ b.member)
    (hid : a.id = b.id) :
    ∃ j k, a.number = some j ∧ b.number = some k ∧
      (increments f.log)[j]? = some a.member ∧ (increments f.log)[k]? = some b.member ∧
      j ≠ k ∧ j % 512 = k % 512 := by
  obtain ⟨j, hj, hja, hjw⟩ := h.backed a ha
  obtain ⟨k, hk, hkb, hkw⟩ := h.backed b hb
  refine ⟨j, k, hj, hk, hja, hkb, ?_, ?_⟩
  · rintro rfl
    rw [hja] at hkb
    exact hne (Option.some.inj hkb)
  · have hmod : (origin.toNat + j + 1) % 512 = (origin.toNat + k + 1) % 512 := by
      rw [← hjw, ← hkw, hid]
    omega

/-- With no more than 512 increments, no identifier is issued twice. -/
theorem Sound.nodup_issues {origin : UInt64} {f : Fleet ω} (h : f.Sound origin)
    (hfew : (increments f.log).length ≤ 512) : ((issues f.log).map (·.id)).Nodup := by
  refine List.pairwise_map.2 (h.ascending.imp_of_mem ?_)
  intro a b ha hb hlt heq
  by_cases hmember : a.member = b.member
  · exact absurd (heq ▸ hlt hmember) (UInt64.lt_irrefl _)
  · obtain ⟨j, k, -, -, hj, hk, hne, hmod⟩ := h.number_of_ne ha hb hmember heq
    have hjlt := (List.getElem?_eq_some_iff.1 hj).1
    have hklt := (List.getElem?_eq_some_iff.1 hk).1
    omega

/-- However the callers of generators that lease from one count are interleaved, an identifier
issued by two of them was issued under leases from increments that are a multiple of 512 apart.
Up to 512 increments, all identifiers issued are distinct. -/
theorem equal_ids_from_distant_increments (W : World ω) (shared : SharedCount)
    (members : List (Config × ω)) (events : List (Event ω)) :
    let log := ((start shared members).run W events).log
    (∀ a ∈ issues log, ∀ b ∈ issues log, a.member ≠ b.member → a.id.raw = b.id.raw →
      ∃ j k, a.number = some j ∧ b.number = some k ∧
        (increments log)[j]? = some a.member ∧ (increments log)[k]? = some b.member ∧
        j ≠ k ∧ j % 512 = k % 512) ∧
    ((increments log).length ≤ 512 → ((issues log).map (·.id.raw)).Nodup) := by
  intro log
  have h : ((start shared members).run W events).Sound shared.count :=
    (sound_start shared members).run events
  constructor
  · intro a ha b hb hne hraw
    exact h.number_of_ne ha hb hne (Uid.ext hraw)
  · intro hfew
    have hnodup := h.nodup_issues hfew
    rw [List.Nodup, List.pairwise_map] at hnodup ⊢
    exact hnodup.imp fun hne hraw => hne (Uid.ext hraw)

/-- The clock stands still and nothing is random. Two members issue the same identifier, the second
one after 511 increments by others. -/
theorem equal_ids_from_distant_increments_sharp :
    let W : World Unit :=
      ⟨fun _ => 5000, fun _ => (0, ()), fun _ => (.ok 0, ()), fun _ _ => ()⟩
    let once : Nat → List (Event Unit) := fun g =>
      .traffic g (.arrive .identifier) :: List.replicate 5 (.traffic g (.turn 0))
    let log := ((start (.counter ⟨0⟩) [({}, ()), ({}, ())]).run W
      (once 0 ++ List.replicate 511 (.lost 1) ++ once 1)).log
    (increments log).length = 513 ∧
    ∃ a ∈ issues log, ∃ b ∈ issues log, a.member ≠ b.member ∧ a.id.raw = b.id.raw ∧
      ∃ j k, a.number = some j ∧ b.number = some k ∧ j ≠ k ∧ j % 512 = k % 512 := by
  intro W once log
  have hissues : issues log
      = [⟨1, ⟨1342701568, by decide, by decide⟩, some 512⟩,
        ⟨0, ⟨1342701568, by decide, by decide⟩, some 0⟩] := by
    decide +kernel +revert
  have hlength : (increments log).length = 513 := by decide +kernel +revert
  have ha := hissues ▸ List.mem_cons_self
  have hb := hissues ▸ List.mem_cons_of_mem _ List.mem_cons_self
  obtain ⟨j, k, hj, hk, -, -, hne, hmod⟩ :=
    (equal_ids_from_distant_increments W (.counter ⟨0⟩) [({}, ()), ({}, ())] _).1
      _ ha _ hb (by decide) rfl
  exact ⟨hlength, _, ha, _, hb, by decide, rfl, j, k, hj, hk, hne, hmod⟩

end Fleet

end Chronicle.Generator
