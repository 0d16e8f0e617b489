-- SUMMARY: One renewal at a time: who holds the gate, which lease is held meanwhile, and what a renewal costs.
import Chronicle.Proofs.Generator.Traffic
import Mathlib.Data.List.Chain
import Mathlib.Data.List.Induction

/-!
# The gate

A caller that meets no live lease takes the gate and keeps it until it has installed a lease, has
given up, or breaks off with a length that is no word. Nobody else installs one meanwhile. If the
clock does not go back, a lease that had expired when the gate was taken is still expired when it is
replaced, so that leases do not overlap; and if nobody is dropped while holding the gate, every
count taken from the store becomes a lease, unless the length of that lease overflows.
-/

namespace Chronicle.Generator

variable {ω : Type} {W : World ω}

/-! ## The present second -/

theorem wholeSecond_mono {a b : UInt64} (h : a ≤ b) : wholeSecond a ≤ wholeSecond b := by
  simp only [UInt64.le_iff_toNat_le, wholeSecond, UInt64.toNat_div, UInt64.reduceToNat] at *
  omega

namespace Scene

/-- The second of the present reading. -/
def second (W : World ω) (s : Scene ω) : UInt64 :=
  wholeSecond (W.nowMs s.world)

/-- The lease held, if it is live at the present second. -/
def liveLease? (W : World ω) (s : Scene ω) : Option Lease :=
  s.state.liveLease? (s.second W)

/-- A lease that is held without being live has expired. -/
theorem expiresAt_le {s : Scene ω} (h : s.liveLease? W = none) {l : Lease}
    (hl : s.state.lease = some l) : l.expiresAt ≤ s.second W := by
  refine UInt64.not_lt.1 fun hlive => ?_
  have hsome : s.liveLease? W = some l :=
    State.liveLease?_eq_some_iff.2 ⟨hl, decide_eq_true hlive⟩
  rw [h] at hsome
  cases hsome

theorem acquiredAt_of_installed {s : Scene ω} {w : UInt16} {l : Lease}
    (h : (s.install W w).1 = some l) : l.acquiredAt = s.second W := by
  rw [fst_install] at h
  obtain ⟨length, -, rfl⟩ := Option.map_eq_some_iff.1 h
  rfl

end Scene

/-! ## Steps at the gate -/

/-- A call to the store. -/
def Deed.isCall : Deed → Bool
  | .counted _ => true
  | _ => false

/-- A caller breaks off, and the count that it took is used up. -/
def Deed.isOverflow : Deed → Bool
  | .overflowed => true
  | _ => false

namespace Caller

theorem holdsGate_start (wish : Wish) : (start wish).holdsGate = false := by
  cases wish <;> rfl

theorem holdsGate_afterPoll (wish : Wish) (answer : Except Fault Status) :
    (⟨wish, afterPoll wish answer⟩ : Caller).holdsGate = false := by
  unfold afterPoll
  split <;> rfl

theorem holdsGate_afterLease (wish : Wish) (lease : Lease) :
    (⟨wish, afterLease wish lease⟩ : Caller).holdsGate = false := by
  cases wish <;> rfl

/-- A caller that came for a lease leaves with it, any other polls again. -/
theorem afterLease_eq (wish : Wish) (lease : Lease) :
    afterLease wish lease = if wish = .lease then .done (.ok (.lease lease)) else .polling := by
  cases wish <;> rfl

/-- A worker id was granted to the caller, and no lease is installed yet. -/
def isGranted (c : Caller) : Bool :=
  match c.stage with
  | .granted _ => true
  | _ => false

theorem isGranted_eq_true_iff {c : Caller} : c.isGranted = true ↔ ∃ w, c.stage = .granted w := by
  obtain ⟨wish, stage⟩ := c
  cases stage <;> simp [isGranted]

theorem isGranted_eq_false {c : Caller} (h : ∀ w, c.stage ≠ .granted w) : c.isGranted = false := by
  rw [Bool.eq_false_iff, ne_eq, isGranted_eq_true_iff]
  exact fun ⟨w, hw⟩ => h w hw

theorem holdsGate_of_isGranted {c : Caller} (h : c.isGranted = true) : c.holdsGate = true := by
  obtain ⟨w, hw⟩ := isGranted_eq_true_iff.1 h
  rw [holdsGate, hw]

section

variable {c c' : Caller} {s s' : Scene ω} {d : Deed}

/-- A step takes the gate, gives it back, or does neither. -/
theorem Step.gate (h : Step W c s d c' s') :
    (d = .entered ∧ s.generator.gateHeld = false ∧ s.liveLease? W = none ∧
      c'.holdsGate = true ∧ s'.generator.gateHeld = true) ∨
    (c.holdsGate = true ∧ c'.holdsGate = false ∧ s'.generator.gateHeld = false) ∨
    (c'.holdsGate = c.holdsGate ∧ s'.generator.gateHeld = s.generator.gateHeld ∧
      d.installed? = none) := by
  obtain ⟨wish, stage⟩ := c
  cases h with
  | poll hstage =>
    cases hstage
    exact .inr (.inr ⟨holdsGate_afterPoll _ _, Scene.gateHeld_poll s, rfl⟩)
  | find lease hstage =>
    cases hstage
    exact .inr (.inr ⟨holdsGate_afterLease _ _, rfl, rfl⟩)
  | enter hstage hgate hlive => exact .inl ⟨rfl, hgate, hlive, rfl, rfl⟩
  | giveUp attempt f hstage => cases hstage; exact .inr (.inl ⟨rfl, rfl, rfl⟩)
  | install w lease hstage =>
    cases hstage
    exact .inr (.inl ⟨rfl, holdsGate_afterLease _ _, rfl⟩)
  | overflow w hstage => cases hstage; exact .inr (.inl ⟨rfl, rfl, rfl⟩)
  | count _ _ hstage | fail _ _ hstage | retry _ hstage | wake _ hstage =>
    cases hstage
    exact .inr (.inr ⟨rfl, rfl, rfl⟩)

/-- A count from the store grants a worker id, and installing a lease or breaking off uses it up. -/
theorem Step.balance (h : Step W c s d c' s') :
    d.count?.toList.length + c.isGranted.toNat
      = d.installed?.toList.length + d.isOverflow.toNat + c'.isGranted.toNat := by
  obtain ⟨wish, stage⟩ := c
  cases h with
  | poll hstage =>
    cases hstage
    have hnot : (⟨wish, afterPoll wish (s.currentPoll W).answer⟩ : Caller).isGranted = false :=
      isGranted_eq_false (afterPoll_ne_granted _ _)
    rw [hnot]
    rfl
  | find lease hstage =>
    cases hstage
    have hnot : (⟨wish, afterLease wish lease⟩ : Caller).isGranted = false :=
      isGranted_eq_false (afterLease_ne_granted _ _)
    rw [hnot]
    rfl
  | install w lease hstage =>
    cases hstage
    have hnot : (⟨wish, afterLease wish lease⟩ : Caller).isGranted = false :=
      isGranted_eq_false (afterLease_ne_granted _ _)
    rw [hnot]
    rfl
  | enter hstage | count _ _ hstage | fail _ _ hstage | giveUp _ _ hstage | retry _ hstage
  | overflow _ hstage | wake _ hstage =>
    cases hstage
    rfl

/-- Only a caller that holds the gate calls the store. -/
theorem Step.holdsGate_of_isCall (h : Step W c s d c' s') (hd : d.isCall = true) :
    c.holdsGate = true := by
  cases h with
  | count _ _ hstage | fail _ _ hstage | giveUp _ _ hstage => rw [holdsGate, hstage]
  | _ => cases hd

/-- A lease is installed as of the second at which it is. -/
theorem Step.acquiredAt (h : Step W c s d c' s') {l : Lease} (hl : d.installed? = some l) :
    l.acquiredAt = s.second W ∧ c.holdsGate = true := by
  have hgranted := h.installed hl
  refine ⟨?_, by rw [holdsGate, hgranted]⟩
  cases h with
  | install w lease hstage hlease => cases hl; exact Scene.acquiredAt_of_installed hlease
  | _ => cases hl

end

end Caller

namespace Traffic

variable {t t' : Traffic ω} {e : Event ω} {d : Option (Nat × Deed)}

/-! ## Who holds the gate -/

/-- The caller of this number holds the gate. -/
def Holds (t : Traffic ω) (i : Nat) : Prop :=
  ∃ c, t.caller? i = some c ∧ c.holdsGate = true

theorem holds_arrive (t : Traffic ω) (wish : Wish) (j : Nat) :
    ({ t with callers := t.callers ++ [some (.start wish)] } : Traffic ω).Holds j ↔ t.Holds j := by
  unfold Holds
  rw [caller?_arrive]
  split
  next hj =>
    have hnone : t.caller? j = none := by
      rw [caller?, hj, List.getElem?_eq_none (Nat.le_refl _)]
      rfl
    simp [hnone, Caller.holdsGate_start]
  next => rfl

section

variable {i : Nat} {c : Caller} {c' : Option Caller} (hi : t.caller? i = some c) (s : Scene ω)

include hi

theorem holds_set (j : Nat) :
    ({ scene := s, callers := t.callers.set i c' } : Traffic ω).Holds j
      ↔ (i = j ∧ c'.any (·.holdsGate) = true) ∨ (i ≠ j ∧ t.Holds j) := by
  unfold Holds
  rw [caller?_set hi]
  split
  next hij => cases c' <;> simp [hij]
  next hij => simp [hij]

/-- A caller that holds the gate as before does not change who holds it. -/
theorem holds_set_of_eq (hc : c'.any (·.holdsGate) = c.holdsGate) (j : Nat) :
    ({ scene := s, callers := t.callers.set i c' } : Traffic ω).Holds j ↔ t.Holds j := by
  rw [holds_set hi, hc]
  by_cases hij : i = j
  · subst hij
    simp [Holds, hi]
  · simp [hij]

end

/-- The gate is held exactly while some caller holds it, and then by one only. -/
structure Guarded (t : Traffic ω) : Prop where
  held_iff : t.scene.generator.gateHeld = true ↔ ∃ i, t.Holds i
  unique : ∀ i j, t.Holds i → t.Holds j → i = j

theorem guarded_of_free (hfree : t.scene.generator.gateHeld = false) (hnone : ∀ i, ¬ t.Holds i) :
    t.Guarded where
  held_iff := iff_of_false (by rw [hfree]; exact Bool.false_ne_true) fun ⟨i, hi⟩ => hnone i hi
  unique i _ hi := absurd hi (hnone i)

theorem guarded_start (config : Config) (world : ω) : (start config world).Guarded := by
  refine guarded_of_free rfl ?_
  rintro i ⟨c, hc, -⟩
  simp [start, caller?] at hc

theorem Guarded.congr (h : t.Guarded)
    (hgate : t'.scene.generator.gateHeld = t.scene.generator.gateHeld)
    (hholds : ∀ i, t'.Holds i ↔ t.Holds i) : t'.Guarded where
  held_iff := by
    rw [hgate, exists_congr hholds]
    exact h.held_iff
  unique i j hi hj := h.unique i j ((hholds i).1 hi) ((hholds j).1 hj)

theorem Guarded.not_holds (h : t.Guarded) (hfree : t.scene.generator.gateHeld = false) (i : Nat) :
    ¬ t.Holds i := by
  intro hi
  rw [h.held_iff.2 ⟨i, hi⟩] at hfree
  cases hfree

/-- When the caller that holds the gate gives it back, nobody holds it. -/
theorem Guarded.give_back (h : t.Guarded) {i : Nat} {c : Caller} (hi : t.caller? i = some c)
    (hc : c.holdsGate = true) {s : Scene ω} (hs : s.generator.gateHeld = false)
    {c' : Option Caller} (hc' : c'.any (·.holdsGate) = false) :
    ({ scene := s, callers := t.callers.set i c' } : Traffic ω).Guarded := by
  refine guarded_of_free hs fun j hj => ?_
  rcases (holds_set hi s j).1 hj with ⟨-, hj⟩ | ⟨hne, hj⟩
  · rw [hc'] at hj
    cases hj
  · exact hne (h.unique i j ⟨c, hi, hc⟩ hj)

/-- When the gate is free, the caller that takes it is the only one to hold it. -/
theorem Guarded.take (h : t.Guarded) (hfree : t.scene.generator.gateHeld = false) {i : Nat}
    {c c' : Caller} (hi : t.caller? i = some c) (hc' : c'.holdsGate = true) {s : Scene ω}
    (hs : s.generator.gateHeld = true) :
    ({ scene := s, callers := t.callers.set i (some c') } : Traffic ω).Guarded := by
  have hholds : ∀ j, ({ scene := s, callers := t.callers.set i (some c') } : Traffic ω).Holds j
      ↔ i = j := by
    intro j
    rw [holds_set hi]
    simp [hc', h.not_holds hfree j]
  constructor
  · exact iff_of_true hs ⟨i, (hholds i).2 rfl⟩
  · intro j k hj hk
    rw [← (hholds j).1 hj, ← (hholds k).1 hk]

/-- In every event, whoever is dropped, at most one caller holds the gate. -/
theorem Guarded.next (h : t.Guarded) (hnext : t.Next W e d t') : t'.Guarded := by
  cases hnext with
  | arrive wish => exact h.congr rfl (holds_arrive t wish)
  | turn i hi hstep =>
    rcases hstep.gate with ⟨-, hfree, -, hc', hs'⟩ | ⟨hc, hc', hs'⟩ | ⟨hc', hs', -⟩
    · exact h.take hfree hi hc' hs'
    · exact h.give_back hi hc hs' hc'
    · exact h.congr hs' (holds_set_of_eq hi _ hc')
  | leave i hi =>
    split
    next hc => exact h.give_back hi hc rfl rfl
    next hc => exact h.congr rfl (holds_set_of_eq hi _ (Bool.eq_false_iff.2 hc).symm)
  | _ => exact h.congr rfl fun _ => Iff.rfl

theorem Guarded.run (h : t.Guarded) (events : List (Event ω)) : (t.run W events).Guarded := by
  induction events generalizing t with
  | nil => exact h
  | cons e events ih => exact ih (h.next (t.next_spec W e))

/-! ## Since when -/

/-- A caller that holds the gate held it before, or takes it now, with no lease live. -/
theorem Next.holds (h : t.Next W e d t') {i : Nat} (hi : t'.Holds i) :
    t.Holds i ∨ (e = .turn i ∧ d = some (i, .entered) ∧ t.scene.liveLease? W = none) := by
  cases h with
  | arrive wish => exact .inl ((holds_arrive t wish i).1 hi)
  | turn j hj hstep =>
    rcases (holds_set hj _ i).1 hi with ⟨rfl, hc'⟩ | ⟨-, hi⟩
    · rcases hstep.gate with ⟨rfl, -, hlive, -⟩ | ⟨-, hfree, -⟩ | ⟨hsame, -⟩
      · exact .inr ⟨rfl, rfl, hlive⟩
      · rw [Option.any_some, hfree] at hc'
        cases hc'
      · exact .inl ⟨_, hj, hsame.symm.trans hc'⟩
    · exact .inl hi
  | leave j hj =>
    rcases (holds_set hj _ i).1 hi with ⟨-, hc'⟩ | ⟨-, hi⟩
    · cases hc'
    · exact .inl hi
  | _ => exact .inl hi

/-- The event drops a caller that holds the gate. -/
def dropsHolder (t : Traffic ω) : Event ω → Bool
  | .leave i => (t.caller? i).any (·.holdsGate)
  | _ => false

/-- The clock does not go back in a run, and nobody is dropped while holding the gate. -/
def Orderly (W : World ω) (t : Traffic ω) : List (Event ω) → Prop
  | [] => True
  | e :: events =>
    (W.nowMs t.scene.world ≤ W.nowMs (t.next W e).scene.world ∧ t.dropsHolder e = false) ∧
      Orderly W (t.next W e) events

instance decidableOrderly : (t : Traffic ω) → (events : List (Event ω)) →
    Decidable (t.Orderly W events)
  | _, [] => isTrue trivial
  | t, e :: events =>
    have := decidableOrderly (t.next W e) events
    inferInstanceAs (Decidable (_ ∧ Orderly W (t.next W e) events))

/-! ## Leases do not overlap -/

/-- While somebody holds the gate, the lease held is past its end. -/
def Expired (W : World ω) (t : Traffic ω) : Prop :=
  t.scene.generator.gateHeld = true → ∀ l ∈ t.scene.state.lease, l.expiresAt ≤ t.scene.second W

theorem expired_of_free (h : t.scene.generator.gateHeld = false) : t.Expired W := by
  intro hheld
  rw [h] at hheld
  cases hheld

/-- Where gate and lease stay as they are, the lease has expired before. -/
theorem Expired.congr (h : t.Expired W)
    (hclock : W.nowMs t.scene.world ≤ W.nowMs t'.scene.world)
    (hgate : t'.scene.generator.gateHeld = t.scene.generator.gateHeld)
    (hlease : t'.scene.state.lease = t.scene.state.lease) : t'.Expired W := by
  intro hheld l hl
  rw [hgate] at hheld
  rw [hlease] at hl
  exact UInt64.le_trans (h hheld l hl) (wholeSecond_mono hclock)

theorem Expired.next (h : t.Expired W) (hnext : t.Next W e d t')
    (hclock : W.nowMs t.scene.world ≤ W.nowMs t'.scene.world) : t'.Expired W := by
  have hlease := hnext.lease_eq
  cases hnext with
  | turn i hi hstep =>
    rcases hstep.gate with ⟨rfl, -, hlive, -, -⟩ | ⟨-, -, hfree⟩ | ⟨-, hgate, hnone⟩
    · intro _ l hl
      rw [hlease] at hl
      exact UInt64.le_trans (Scene.expiresAt_le hlive hl) (wholeSecond_mono hclock)
    · exact expired_of_free hfree
    · refine h.congr hclock hgate ?_
      rw [hlease, Option.bind_some, hnone, Option.none_or]
  | leave i hi =>
    split
    next => exact expired_of_free rfl
    next => exact h.congr (UInt64.le_refl _) rfl rfl
  | _ => exact h.congr hclock rfl rfl

/-- What is installed begins when it is installed, by a caller that holds the gate. -/
theorem Next.acquiredAt (h : t.Next W e d t') {l : Lease}
    (hl : d.bind (·.2.installed?) = some l) :
    l.acquiredAt = t.scene.second W ∧ ∃ i, t.Holds i := by
  cases h with
  | turn i hi hstep =>
    obtain ⟨hacquired, hc⟩ := hstep.acquiredAt hl
    exact ⟨hacquired, i, _, hi, hc⟩
  | _ => cases hl

/-- The leases installed in a run, in order. -/
def installed (W : World ω) (t : Traffic ω) (events : List (Event ω)) : List Lease :=
  (t.history W events).filterMap (·.2.installed?)

theorem installed_cons (t : Traffic ω) (e : Event ω) (events : List (Event ω)) :
    t.installed W (e :: events)
      = ((t.deed? W e).bind (·.2.installed?)).toList ++ (t.next W e).installed W events :=
  filterMap_history_cons Deed.installed? t e events

/-- The counts taken from the store in a run, in order. -/
def counted (W : World ω) (t : Traffic ω) (events : List (Event ω)) : List UInt64 :=
  (t.history W events).filterMap (·.2.count?)

theorem counted_cons (t : Traffic ω) (e : Event ω) (events : List (Event ω)) :
    t.counted W (e :: events)
      = ((t.deed? W e).bind (·.2.count?)).toList ++ (t.next W e).counted W events :=
  filterMap_history_cons Deed.count? t e events

/-- Number of callers that broke off in a run. -/
def overflows (W : World ω) (t : Traffic ω) (events : List (Event ω)) : Nat :=
  (t.history W events).countP (·.2.isOverflow)

theorem overflows_cons (t : Traffic ω) (e : Event ω) (events : List (Event ω)) :
    t.overflows W (e :: events)
      = ((t.deed? W e).any (·.2.isOverflow)).toNat + (t.next W e).overflows W events := by
  rw [overflows, history, List.countP_append]
  congr 1
  cases t.deed? W e with
  | none => rfl
  | some d =>
    rw [Option.toList_some, List.countP_singleton, Option.any_some]
    cases d.2.isOverflow <;> rfl

/-- Number of callers that have a worker id and no lease yet. -/
def granted (t : Traffic ω) : Nat :=
  t.callers.countP (·.any (·.isGranted))

theorem granted_set {i : Nat} {c : Caller} (hi : t.caller? i = some c) (s : Scene ω)
    (c' : Option Caller) :
    ({ scene := s, callers := t.callers.set i c' } : Traffic ω).granted + c.isGranted.toNat
      = t.granted + (c'.any (·.isGranted)).toNat := by
  obtain ⟨hlt, hget⟩ := List.getElem?_eq_some_iff.1 (Option.join_eq_some_iff.1 hi)
  have hbool : ∀ b : Bool, (if b = true then 1 else 0) = b.toNat := by decide
  have hpos : c.isGranted = true → 0 < t.granted := by
    intro hc
    exact List.countP_pos_iff.2 ⟨some c, hget ▸ List.getElem_mem hlt, hc⟩
  simp only [granted, List.countP_set hlt, hget, Option.any_some, hbool]
  cases hc : c.isGranted with
  | false => simp
  | true =>
    have := hpos hc
    rw [granted] at this
    simp only [Bool.toNat_true]
    omega

/-- Counts are taken from the store as worker ids are granted, and leases are installed or callers
break off as they are used up, unless a caller is dropped in between. -/
theorem Next.balance (h : t.Next W e d t') (hkept : t.dropsHolder e = false) :
    (d.bind (·.2.count?)).toList.length + t.granted
      = (d.bind (·.2.installed?)).toList.length + (d.any (·.2.isOverflow)).toNat + t'.granted := by
  cases h with
  | arrive wish =>
    have hstart : (Caller.start wish).isGranted = false :=
      Caller.isGranted_eq_false (Caller.start_ne_granted wish)
    simp [Traffic.granted, hstart]
  | turn i hi hstep =>
    rename_i c c' x s'
    have hset := granted_set hi s' (some c')
    have hbalance := hstep.balance
    rw [Option.any_some] at hset
    simp only [Option.bind_some, Option.any_some]
    omega
  | leave i hi =>
    rename_i c
    have hset := granted_set hi (if c.holdsGate then t.scene.setGate false else t.scene) none
    have hc : c.isGranted = false := by
      rw [Bool.eq_false_iff]
      intro hc
      simp [dropsHolder, hi, Caller.holdsGate_of_isGranted hc] at hkept
    rw [hc] at hset
    simpa using hset.symm
  | _ => simp [Traffic.granted]

theorem Orderly.balance {events : List (Event ω)} (h : t.Orderly W events) :
    (t.counted W events).length + t.granted
      = (t.installed W events).length + t.overflows W events + (t.run W events).granted := by
  induction events generalizing t with
  | nil => rfl
  | cons e events ih =>
    have ih := ih h.2
    have hnext := (t.next_spec W e).balance h.1.2
    have hrun : t.run W (e :: events) = (t.next W e).run W events := rfl
    rw [counted_cons, installed_cons, overflows_cons, List.length_append, List.length_append, hrun]
    omega

end Traffic

end Chronicle.Generator
