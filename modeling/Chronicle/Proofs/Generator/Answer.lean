-- SUMMARY: What the answer to a poll says of the state it leaves, and of all the polls after it.
import Chronicle.Proofs.Generator.Traffic

/-!
# Answers

A poll fails for a reading that cannot be carried and for nothing else. One that issues an
identifier moves the state to the second and the sequence of that identifier, and any other leaves
the state alone. A poll that is told to wait is not told to wait too long: until the wait is over,
no poll is given an identifier, whatever comes in between. Nothing of this hangs on where worker ids
come from, so a generator may here be handed any lease at any time.
-/

namespace Chronicle.Generator

variable {ω : Type} {W : World ω}

/-! ## The state after a poll -/

namespace State

section

variable {s : State} {nowMs : UInt64} {seed random : UInt16}

theorem poll_eq_error_iff :
    (∃ f, (s.poll nowMs seed random).1 = .error f) ↔ canCarry (wholeSecond nowMs) = false := by
  have hout := s.poll_outcome nowMs seed random
  generalize s.poll nowMs seed random = out at hout
  cases hout with
  | refused hnow => exact ⟨fun _ => hnow, fun _ => ⟨_, rfl⟩⟩
  | leaseless hnow | fenced _ hnow | behind _ hnow | exhausted _ hnow | newSecond _ _ hnow
  | sameSecond _ _ hnow => simp [hnow]

theorem eq_clock_of_poll {f : Fault} (h : (s.poll nowMs seed random).1 = .error f) :
    f = .internal (.clock (wholeSecond nowMs)) := by
  have hout := s.poll_outcome nowMs seed random
  generalize s.poll nowMs seed random = out at hout h
  cases hout with
  | refused => exact (Except.error.inj h).symm
  | _ => cases h

theorem poll_of_not_issued (h : issuedBy (s.poll nowMs seed random).1 = none) :
    (s.poll nowMs seed random).2 = s := by
  have hout := s.poll_outcome nowMs seed random
  generalize s.poll nowMs seed random = out at hout h
  cases hout with
  | newSecond | sameSecond => cases h
  | _ => rfl

/-- The state moves to the fields of the identifier, which are not cut to their width. -/
theorem poll_of_issued {id : Uid} (h : issuedBy (s.poll nowMs seed random).1 = some id)
    (hseed : seed ≤ Uid.maxSequence) :
    (s.poll nowMs seed random).2
      = { s with timestamp := id.timestamp, sequence := id.sequence } := by
  obtain ⟨l, q, hissues⟩ := exists_issues h
  have htime := Uid.timestamp_of_ofFields hissues.fields (canCarry_iff.1 hissues.carried).2
  have hsequence := Uid.sequence_of_ofFields hissues.fields (hissues.sequence_le hseed)
  rw [hissues.moved, htime, hsequence]

theorem issuedBy_eq_none {answer : Except Fault Status} (h : ∀ id, answer ≠ .ok (.ready id)) :
    issuedBy answer = none := by
  cases answer with
  | error f => rfl
  | ok status =>
    cases status with
    | ready id => exact absurd rfl (h id)
    | _ => rfl

theorem canCarry_eq_false_iff {second : UInt64} :
    canCarry second = false ↔ second = 0 ∨ Uid.maxTimestamp < second := by
  rw [← Bool.not_eq_true, canCarry_iff, Decidable.not_and_iff_not_or_not, ne_eq, Decidable.not_not,
    UInt64.not_le]

end

end State

/-- In any state, at any reading and with any words drawn, a poll fails exactly when the second of
the reading is zero or too late for the timestamp field, and that second is what the fault names. A
poll that brings no identifier leaves the state as it was. One that does changes the second and the
sequence of the state, and nothing else, to those of the identifier. -/
theorem Scene.poll_fails_only_out_of_range (W : World ω) (s : Scene ω) :
    let second := wholeSecond (W.nowMs s.world)
    ((∃ f, (s.poll W).1 = .error f) ↔ second = 0 ∨ Uid.maxTimestamp < second) ∧
    (∀ f, (s.poll W).1 = .error f → f = .internal (.clock second)) ∧
    ((∀ id, (s.poll W).1 ≠ .ok (.ready id)) → (s.poll W).2.state = s.state) ∧
    ∀ id, (s.poll W).1 = .ok (.ready id) →
      (s.poll W).2.state
        = { s.state with timestamp := id.timestamp, sequence := id.sequence } := by
  intro second
  have hstate := s.state_currentPoll (W := W)
  have hnow := s.nowMs_currentPoll (W := W)
  rw [fst_poll, state_poll, Poll.answer, Poll.after, hstate, hnow]
  refine ⟨?fails, fun f => State.eq_clock_of_poll, fun h => ?kept, fun id h => ?moved⟩
  case fails => rw [State.poll_eq_error_iff, State.canCarry_eq_false_iff]
  case kept => exact State.poll_of_not_issued (State.issuedBy_eq_none h)
  case moved => exact State.poll_of_issued (by rw [h]; rfl) s.seed_currentPoll_le

/-! ## Changes of the state -/

namespace State

/-- The ways in which the state of a generator changes. -/
inductive Change (s : State) : State → Prop
  | none : Change s s
  | poll (nowMs : UInt64) {seed : UInt16} (hseed : seed ≤ Uid.maxSequence) (random : UInt16) :
      Change s (s.poll nowMs seed random).2
  | install (l : Lease) : Change s (s.install l)

theorem resumeAt_le_install (s : State) (l : Lease) :
    s.resumeAt ≤ (s.install l).resumeAt := by
  unfold State.install
  split
  next h => exact UInt64.le_of_lt (of_decide_eq_true (Bool.and_eq_true_iff.1 h).2)
  next => exact UInt64.le_refl _

/-- The numbers in a state, which leave room for the second after the last one. -/
structure Bounded (s : State) : Prop where
  timestamp_le : s.timestamp ≤ Uid.maxTimestamp
  resumeAt_le : s.resumeAt ≤ s.timestamp + 1

theorem bounded_empty : ({} : State).Bounded := ⟨by decide, by decide⟩

theorem Bounded.change {s s' : State} (h : s.Bounded) (hchange : s.Change s') : s'.Bounded := by
  cases hchange with
  | none => exact h
  | poll nowMs hseed random =>
    cases hid : issuedBy (s.poll nowMs _ random).1 with
    | none => rwa [poll_of_not_issued hid]
    | some id =>
      obtain ⟨l, q, hissues⟩ := exists_issues hid
      have hnow := (canCarry_iff.1 hissues.carried).2
      have hsucc := toNat_succ_of_le_maxTimestamp hnow
      have hfence := UInt64.le_iff_toNat_le.1 hissues.unfenced
      rw [hissues.moved]
      refine ⟨hnow, UInt64.le_iff_toNat_le.2 ?_⟩
      simp only [hsucc]
      omega
  | install l =>
    refine ⟨by simpa using h.timestamp_le, ?_⟩
    rw [timestamp_install]
    unfold State.install
    split
    next => exact UInt64.le_refl _
    next => exact h.resumeAt_le

/-! ## Seconds that are closed -/

/-- Nothing can be issued before second `x`: the fence stands until then, or the last identifier is
of that second or a later one, or it used up the second right before. -/
inductive ClosedBefore (s : State) (x : Nat) : Prop
  | fenced (hfence : x ≤ s.resumeAt.toNat)
  | passed (hpassed : x ≤ s.timestamp.toNat)
  | usedUp (hnext : x = s.timestamp.toNat + 1) (hused : Uid.maxSequence ≤ s.sequence)

/-- What is issued although the seconds before `x` are closed is not issued in them. -/
theorem ClosedBefore.le_of_issued {s : State} {x : Nat} (h : s.ClosedBefore x) {nowMs : UInt64}
    {seed random : UInt16} {id : Uid} (hid : issuedBy (s.poll nowMs seed random).1 = some id) :
    x ≤ (wholeSecond nowMs).toNat := by
  obtain ⟨l, q, hissues⟩ := exists_issues hid
  have hfence := UInt64.le_iff_toNat_le.1 hissues.unfenced
  rcases hissues.counted with ⟨hlater, -⟩ | ⟨hsame, hleft, -⟩
  · have hlater := UInt64.lt_iff_toNat_lt.1 hlater
    cases h <;> omega
  · have hsame := congrArg UInt64.toNat hsame
    cases h with
    | usedUp _ hused => exact absurd hleft (UInt16.not_lt.2 hused)
    | fenced | passed => omega

/-- Seconds that are closed stay closed. -/
theorem ClosedBefore.change {s s' : State} {x : Nat} (h : s.ClosedBefore x)
    (hchange : s.Change s') : s'.ClosedBefore x := by
  cases hchange with
  | none => exact h
  | poll nowMs hseed random =>
    cases hid : issuedBy (s.poll nowMs _ random).1 with
    | none => rwa [poll_of_not_issued hid]
    | some id =>
      obtain ⟨l, q, hissues⟩ := exists_issues hid
      rw [hissues.moved]
      exact .passed (h.le_of_issued hid)
  | install l =>
    cases h with
    | fenced hfence =>
      exact .fenced (Nat.le_trans hfence (UInt64.le_iff_toNat_le.1 (s.resumeAt_le_install l)))
    | passed hpassed => exact .passed (by simpa using hpassed)
    | usedUp hnext hused => exact .usedUp (by simpa using hnext) (by simpa using hused)

section

variable {s : State} {nowMs : UInt64} {seed random : UInt16} {wait : Duration}

/-- A poll that waits does so for one of three seconds, which lies ahead, at most one second past
that of the state. -/
theorem Bounded.exists_second (h : s.Bounded)
    (hwait : (s.poll nowMs seed random).1 = .ok (.pending wait)) :
    ∃ x : UInt64, wait = waitUntil nowMs x ∧
      (x = s.resumeAt ∨ x = s.timestamp ∨ x = wholeSecond nowMs + 1) ∧
      wholeSecond nowMs < x ∧ x.toNat ≤ s.timestamp.toNat + 1 ∧ s.ClosedBefore x.toNat := by
  have hresume := UInt64.le_iff_toNat_le.1 h.resumeAt_le
  have hsucc := toNat_succ_of_le_maxTimestamp h.timestamp_le
  have hout := s.poll_outcome nowMs seed random
  generalize s.poll nowMs seed random = out at hout hwait
  cases hout with
  | fenced l hnow hlease hfence =>
    cases hwait
    exact ⟨_, rfl, .inl rfl, hfence, by omega, .fenced (Nat.le_refl _)⟩
  | behind l hnow hlease hfence hbehind =>
    cases hwait
    exact ⟨_, rfl, .inr (.inl rfl), hbehind, by omega, .passed (Nat.le_refl _)⟩
  | exhausted l hnow hlease hfence hsame hused =>
    cases hwait
    rw [← hsame]
    exact ⟨_, rfl, .inr (.inr rfl), UInt64.lt_iff_toNat_lt.2 (by omega), Nat.le_of_eq hsucc,
      .usedUp hsucc hused⟩
  | _ => cases hwait

/-- Every second that is waited for is one that the clock can come to. -/
theorem Bounded.second_lt_size (h : s.Bounded) {x : UInt64}
    (hx : x.toNat ≤ s.timestamp.toNat + 1) : x.toNat * 1000 < UInt64.size := by
  have hmax := UInt64.le_iff_toNat_le.1 h.timestamp_le
  simp only [Uid.maxTimestamp, UInt64.reduceToNat] at hmax
  rw [UInt64.size]
  omega

/-- A wait ends with the whole second before which all are closed. -/
theorem Bounded.pending (h : s.Bounded)
    (hwait : (s.poll nowMs seed random).1 = .ok (.pending wait)) :
    ∃ x : Nat, nowMs.toNat + wait.toMillis = x * 1000 ∧ (wholeSecond nowMs).toNat < x ∧
      s.ClosedBefore x := by
  obtain ⟨x, rfl, -, hahead, hle, hclosed⟩ := h.exists_second hwait
  exact ⟨x.toNat, toMillis_waitUntil (h.second_lt_size hle) hahead,
    UInt64.lt_iff_toNat_lt.1 hahead, hclosed⟩

end

end State

/-! ## Leases from anywhere -/

section

variable {c c' : Caller} {s s' : Scene ω} {d : Deed}

theorem Caller.Step.change (h : Step W c s d c' s') : s.state.Change s'.state := by
  cases h with
  | poll =>
    rw [Scene.state_poll, Poll.after, Scene.state_currentPoll]
    exact .poll _ s.seed_currentPoll_le _
  | install w lease hstage hlease =>
    rw [Scene.state_setGate, Scene.state_of_installed hlease]
    exact .install lease
  | overflow w hstage hlease =>
    rw [Scene.state_setGate, Scene.state_of_overflowed hlease]
    exact .none
  | _ => exact .none

end

/-- What can happen to a generator that is also handed leases which none of its callers asked
for. -/
inductive Incident (ω : Type) where
  | event (e : Event ω)
  /-- A lease takes the place of the one held. -/
  | handed (l : Lease)

namespace Traffic

theorem Next.change {t t' : Traffic ω} {e : Event ω} {d : Option (Nat × Deed)}
    (h : t.Next W e d t') : t.scene.state.Change t'.scene.state := by
  cases h with
  | turn i hi hstep => exact hstep.change
  | leave i hi =>
    simp only
    split <;> exact .none
  | _ => exact .none

def meet (W : World ω) (t : Traffic ω) : Incident ω → Traffic ω
  | .event e => t.next W e
  | .handed l => { t with scene := t.scene.setState (t.scene.state.install l) }

def meetAll (W : World ω) (t : Traffic ω) (incidents : List (Incident ω)) : Traffic ω :=
  incidents.foldl (meet W) t

theorem change_meet (t : Traffic ω) (i : Incident ω) :
    t.scene.state.Change (t.meet W i).scene.state := by
  cases i with
  | event e => exact (t.next_spec W e).change
  | handed l => exact .install l

/-- What every change of a state keeps is kept throughout. -/
theorem meetAll_keeps {P : State → Prop} (hP : ∀ {s s' : State}, P s → s.Change s' → P s')
    {t : Traffic ω} (h : P t.scene.state) (incidents : List (Incident ω)) :
    P (t.meetAll W incidents).scene.state := by
  induction incidents generalizing t with
  | nil => exact h
  | cons i incidents ih => exact ih (hP h (t.change_meet i))

/-- Whatever callers have done at a generator and whatever leases it was handed: a poll that is told
to wait, at any reading, leaves the state as it was, the wait is not empty, and it ends when a
second begins. Until then no poll is given an identifier, at whatever reading it is made and
whatever else happens before it. -/
theorem nothing_issued_before_wait_ends (W : World ω) (config : Config) (world : ω)
    (past : List (Incident ω)) {p : Poll} {wait : Duration}
    (hp : p.state = ((start config world).meetAll W past).scene.state)
    (hwait : p.answer = .ok (.pending wait)) :
    p.after = p.state ∧ 0 < wait.toMillis ∧
    ∃ second, p.nowMs.toNat + wait.toMillis = second * 1000 ∧
      ∀ (rest : List (Incident ω)) (q : Poll) (id : Uid),
        q.state = ((start config world).meetAll W (past ++ rest)).scene.state →
        q.issued? = some id → p.nowMs.toNat + wait.toMillis ≤ q.nowMs.toNat := by
  have hbounded : p.state.Bounded := by
    rw [hp]
    have hstart : (start config world).scene.state.Bounded := State.bounded_empty
    exact meetAll_keeps State.Bounded.change hstart past
  obtain ⟨second, hends, hlater, hclosed⟩ := hbounded.pending hwait
  simp only [wholeSecond, UInt64.toNat_div, UInt64.reduceToNat] at hlater
  refine ⟨?kept, by omega, second, hends, fun rest q id hq hid => ?later⟩
  case kept =>
    refine State.poll_of_not_issued (State.issuedBy_eq_none fun id hid => ?_)
    rw [← Poll.answer, hwait] at hid
    cases hid
  case later =>
    have hclosed : q.state.ClosedBefore second := by
      rw [hp] at hclosed
      rw [hq, meetAll, List.foldl_append]
      exact meetAll_keeps State.ClosedBefore.change hclosed rest
    have hle := hclosed.le_of_issued hid
    simp only [wholeSecond, UInt64.toNat_div, UInt64.reduceToNat] at hle
    omega

/-- The sequence of a second is used up. The wait ends with that second, and then an identifier is
issued. -/
theorem nothing_issued_before_wait_ends_sharp :
    let W : World (UInt64 × UInt64) :=
      ⟨fun w => w.1, fun w => (1022, w), fun w => (.ok (w.2 + 1), w.1, w.2 + 1), fun _ w => w⟩
    let config : Config := { seedSpan := 65535 }
    let past : List (Incident (UInt64 × UInt64)) :=
      [.event (.arrive .identifier), .event (.turn 0), .event (.turn 0), .event (.turn 0),
        .event (.turn 0), .event (.turn 0), .event (.arrive .status), .event (.turn 1)]
    let s := ((start config (5000, 0)).meetAll W past).scene.state
    let p : Poll := ⟨s, 5400, 0, 0⟩
    p.answer = .ok (.pending (.ofMillis 600)) ∧
      (∀ rest (q : Poll) id,
        q.state = ((start config (5000, 0)).meetAll W (past ++ rest)).scene.state →
        q.issued? = some id → 6000 ≤ q.nowMs.toNat) ∧
      (⟨s, 6000, 0, 0⟩ : Poll).issued?.map (·.timestamp) = some 6 := by
  intro W config past s p
  have hwait : p.answer = .ok (.pending (.ofMillis 600)) := by
    have hp : p = ⟨⟨some ⟨1, 5, 4627⟩, 5, 1023, 0⟩, 5400, 0, 0⟩ := by decide
    rw [hp]
    rfl
  obtain ⟨-, -, -, -, hlater⟩ :=
    nothing_issued_before_wait_ends W config (5000, 0) past (p := p) rfl hwait
  exact ⟨hwait, hlater, by decide⟩

end Traffic

end Chronicle.Generator
