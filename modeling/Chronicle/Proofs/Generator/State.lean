-- SUMMARY: What a poll and a new lease do to the state of a generator, and the invariant that both keep.
import Chronicle.Generator.State
import Chronicle.Proofs.Uid.Fields

/-!
# The state of a generator, step by step

A poll has seven outcomes, told apart by the reading, the lease and the second and sequence of the
last identifier. Two of them issue an identifier; the others leave the state alone. What the state
says about the last identifier issued is an invariant of polls and of new leases, and it places
every identifier above the one before it.
-/

namespace Chronicle.Generator.State

/-! ## What a poll does -/

/-- The outcomes of a poll, each with what leads to it. -/
inductive Outcome (s : State) (nowMs : UInt64) (seed random : UInt16) :
    Except Fault Status × State → Prop
  /-- The second of the reading cannot be carried. -/
  | refused (hnow : canCarry (wholeSecond nowMs) = false) :
      Outcome s nowMs seed random (.error (.internal (.clock (wholeSecond nowMs))), s)
  /-- No lease is held, or it has expired. -/
  | leaseless (hnow : canCarry (wholeSecond nowMs) = true)
      (hlease : s.liveLease? (wholeSecond nowMs) = none) :
      Outcome s nowMs seed random (.ok .leaseRequired, s)
  /-- The fence put up by a change of worker still stands. -/
  | fenced (l : Lease) (hnow : canCarry (wholeSecond nowMs) = true)
      (hlease : s.liveLease? (wholeSecond nowMs) = some l)
      (hfence : wholeSecond nowMs < s.resumeAt) :
      Outcome s nowMs seed random (.ok (.pending (waitUntil nowMs s.resumeAt)), s)
  /-- The clock is behind the last identifier. -/
  | behind (l : Lease) (hnow : canCarry (wholeSecond nowMs) = true)
      (hlease : s.liveLease? (wholeSecond nowMs) = some l) (hfence : s.resumeAt ≤ wholeSecond nowMs)
      (hbehind : wholeSecond nowMs < s.timestamp) :
      Outcome s nowMs seed random (.ok (.pending (waitUntil nowMs s.timestamp)), s)
  /-- The second is the one of the last identifier, and its sequence is used up. -/
  | exhausted (l : Lease) (hnow : canCarry (wholeSecond nowMs) = true)
      (hlease : s.liveLease? (wholeSecond nowMs) = some l) (hfence : s.resumeAt ≤ wholeSecond nowMs)
      (hsame : s.timestamp = wholeSecond nowMs) (hused : Uid.maxSequence ≤ s.sequence) :
      Outcome s nowMs seed random
        (.ok (.pending (waitUntil nowMs (wholeSecond nowMs + 1))), s)
  /-- The second is later than the one of the last identifier. -/
  | newSecond (l : Lease) (id : Uid) (hnow : canCarry (wholeSecond nowMs) = true)
      (hlease : s.liveLease? (wholeSecond nowMs) = some l) (hfence : s.resumeAt ≤ wholeSecond nowMs)
      (hlater : s.timestamp < wholeSecond nowMs)
      (hid : Uid.ofFields (wholeSecond nowMs) l.workerId seed random = .ok id) :
      Outcome s nowMs seed random
        (.ok (.ready id), { s with timestamp := wholeSecond nowMs, sequence := seed })
  /-- The second is the one of the last identifier, and its sequence goes on. -/
  | sameSecond (l : Lease) (id : Uid) (hnow : canCarry (wholeSecond nowMs) = true)
      (hlease : s.liveLease? (wholeSecond nowMs) = some l) (hfence : s.resumeAt ≤ wholeSecond nowMs)
      (hsame : s.timestamp = wholeSecond nowMs) (hleft : s.sequence < Uid.maxSequence)
      (hid : Uid.ofFields (wholeSecond nowMs) l.workerId (s.sequence + 1) random = .ok id) :
      Outcome s nowMs seed random
        (.ok (.ready id), { s with timestamp := wholeSecond nowMs, sequence := s.sequence + 1 })

theorem canCarry_iff {second : UInt64} :
    canCarry second = true ↔ second ≠ 0 ∧ second ≤ Uid.maxTimestamp := by
  simp [canCarry]

theorem liveLease?_eq_some_iff {s : State} {now : UInt64} {l : Lease} :
    s.liveLease? now = some l ↔ s.lease = some l ∧ l.isLive now = true := by
  simp [liveLease?, Option.filter_eq_some_iff]

/-- A second that can be carried makes an identifier with any other fields, so that the state is
never moved in vain. -/
theorem issue_of_canCarry (s : State) {t : UInt64} (ht : canCarry t = true) (w q r : UInt16) :
    ∃ id, Uid.ofFields t w q r = .ok id ∧
      s.issue w t q r = (.ok (.ready id), { s with timestamp := t, sequence := q }) := by
  obtain ⟨ht0, htm⟩ := canCarry_iff.1 ht
  obtain ⟨id, hid⟩ := Uid.ofFields_eq_ok (w := w) (s := q) (r := r) ht0 htm
  exact ⟨id, hid, by rw [issue, hid]; rfl⟩

/-- Every poll has one of the outcomes. -/
theorem poll_outcome (s : State) (nowMs : UInt64) (seed random : UInt16) :
    s.Outcome nowMs seed random (s.poll nowMs seed random) := by
  unfold poll
  cases hnow : canCarry (wholeSecond nowMs) with
  | false => simpa [hnow] using Outcome.refused hnow
  | true =>
    cases hlease : s.liveLease? (wholeSecond nowMs) with
    | none => simpa [hnow, hlease] using Outcome.leaseless hnow hlease
    | some l =>
      simp only [hnow, hlease, Bool.not_true, Bool.false_eq_true, if_false]
      split
      next hfence => exact .fenced l hnow hlease hfence
      next hfence =>
        have hfence := UInt64.not_lt.1 hfence
        split
        next hlater =>
          obtain ⟨id, hid, heq⟩ := s.issue_of_canCarry hnow l.workerId seed random
          rw [heq]
          exact .newSecond l id hnow hlease hfence hlater hid
        next hlater =>
          split
          next hbehind => exact .behind l hnow hlease hfence hbehind
          next hbehind =>
            have hsame := UInt64.le_antisymm (UInt64.not_lt.1 hbehind) (UInt64.not_lt.1 hlater)
            split
            next hused => exact .exhausted l hnow hlease hfence hsame hused
            next hused =>
              obtain ⟨id, hid, heq⟩ :=
                s.issue_of_canCarry hnow l.workerId (s.sequence + 1) random
              rw [heq]
              exact .sameSecond l id hnow hlease hfence hsame (UInt16.not_le.1 hused) hid

@[simp] theorem lease_poll (s : State) (nowMs : UInt64) (seed random : UInt16) :
    (s.poll nowMs seed random).2.lease = s.lease := by
  have h := s.poll_outcome nowMs seed random
  generalize s.poll nowMs seed random = out at h
  cases h <;> rfl

@[simp] theorem resumeAt_poll (s : State) (nowMs : UInt64) (seed random : UInt16) :
    (s.poll nowMs seed random).2.resumeAt = s.resumeAt := by
  have h := s.poll_outcome nowMs seed random
  generalize s.poll nowMs seed random = out at h
  cases h <;> rfl

/-- A wait for a later second that the clock can come to ends exactly when that second begins. -/
theorem toMillis_waitUntil {nowMs x : UInt64} (hx : x.toNat * 1000 < UInt64.size)
    (hlt : wholeSecond nowMs < x) :
    nowMs.toNat + (waitUntil nowMs x).toMillis = x.toNat * 1000 := by
  rw [UInt64.lt_iff_toNat_lt] at hlt
  simp only [wholeSecond, UInt64.toNat_div, UInt64.reduceToNat] at hlt
  rw [waitUntil, Duration.toMillis_ofMillis, Word.toNat_saturatingSub, Word.toNat_saturatingMul]
  simp only [UInt64.reduceToNat]
  omega

/-! ## The invariant -/

/-- What the state says of `last`, the last identifier issued: its second and its sequence are
those of the state, and a lease under another worker id than its own is fenced off until the
second after it. -/
structure Sound (s : State) (last : Option Uid) : Prop where
  timestamp_le : s.timestamp ≤ Uid.maxTimestamp
  sequence_le : s.sequence ≤ Uid.maxSequence
  timestamp_eq_zero_iff : s.timestamp = 0 ↔ last = none
  timestamp_last : ∀ u ∈ last, u.timestamp = s.timestamp
  sequence_last : ∀ u ∈ last, u.sequence = s.sequence
  resumeAt_le : s.resumeAt ≤ s.timestamp + 1
  leased : last ≠ none → s.lease ≠ none
  workerId_le : ∀ l ∈ s.lease, l.workerId ≤ Uid.maxWorkerId
  fenced : ∀ l ∈ s.lease, ∀ u ∈ last, l.workerId ≠ u.workerId → s.resumeAt = s.timestamp + 1

theorem sound_empty : ({} : State).Sound none where
  timestamp_le := by decide
  sequence_le := by decide
  timestamp_eq_zero_iff := by simp
  timestamp_last := by simp
  sequence_last := by simp
  resumeAt_le := by decide
  leased := by simp
  workerId_le := by simp
  fenced := by simp

/-- The second after one that fits the field is a word: nothing wraps. -/
theorem toNat_succ_of_le_maxTimestamp {t : UInt64} (ht : t ≤ Uid.maxTimestamp) :
    (t + 1).toNat = t.toNat + 1 := by
  rw [UInt64.le_iff_toNat_le] at ht
  simp only [Uid.maxTimestamp, UInt64.reduceToNat] at ht
  simp only [UInt64.toNat_add, UInt64.reduceToNat]
  omega

/-- In the second of the last identifier the fence is down only for a lease under the worker id of
that identifier. -/
theorem Sound.workerId_eq {s : State} {last : Option Uid} (h : s.Sound last) {l : Lease}
    (hl : s.lease = some l) (hfence : s.resumeAt ≤ s.timestamp) :
    ∀ u ∈ last, l.workerId = u.workerId := by
  intro u hu
  refine Decidable.not_not.1 fun hne => ?_
  have hres := h.fenced l hl u hu hne
  have hsucc := toNat_succ_of_le_maxTimestamp h.timestamp_le
  rw [hres, UInt64.le_iff_toNat_le, hsucc] at hfence
  omega

/-- An identifier made under the lease held, in a second that the fence leaves open and beyond the
last identifier in second or sequence, is greater than the last one and may take its place. -/
theorem Sound.issue {s : State} {last : Option Uid} (h : s.Sound last) {l : Lease}
    (hl : s.lease = some l) {t : UInt64} {q r : UInt16} {id : Uid}
    (hid : Uid.ofFields t l.workerId q r = .ok id) (ht : canCarry t = true)
    (hq : q ≤ Uid.maxSequence) (hfence : s.resumeAt ≤ t)
    (hnext : s.timestamp < t ∨ s.timestamp = t ∧ s.sequence < q) :
    ({ s with timestamp := t, sequence := q } : State).Sound (some id) ∧ ∀ u ∈ last, u < id := by
  obtain ⟨ht0, htm⟩ := canCarry_iff.1 ht
  have hit := Uid.timestamp_of_ofFields hid htm
  have hiw := Uid.workerId_of_ofFields hid (h.workerId_le l hl)
  have hiq := Uid.sequence_of_ofFields hid hq
  constructor
  · exact {
      timestamp_le := htm
      sequence_le := hq
      timestamp_eq_zero_iff := by simp [ht0]
      timestamp_last := by simp [hit]
      sequence_last := by simp [hiq]
      resumeAt_le := by
        have hsucc := toNat_succ_of_le_maxTimestamp htm
        have hle : s.resumeAt.toNat ≤ t.toNat := UInt64.le_iff_toNat_le.1 hfence
        exact UInt64.le_iff_toNat_le.2 (by simp only [hsucc]; omega)
      leased := by simp [hl]
      workerId_le := h.workerId_le
      fenced := by
        intro l' hl' u hu hne
        cases hl.symm.trans hl'
        cases hu
        exact absurd hiw.symm hne }
  · intro u hu
    rcases hnext with hlt | ⟨heq, hlt⟩
    · exact Uid.lt_of_timestamp_lt (by rw [h.timestamp_last u hu, hit]; exact hlt)
    · have hworker := h.workerId_eq hl (heq ▸ hfence) u hu
      exact Uid.lt_of_sequence_lt (by rw [h.timestamp_last u hu, hit, heq])
        (by rw [hiw, hworker]) (by rw [h.sequence_last u hu, hiq]; exact hlt)

/-- A sequence that is not used up goes on without wrapping. -/
theorem toNat_succ_of_lt_maxSequence {q : UInt16} (hq : q < Uid.maxSequence) :
    (q + 1).toNat = q.toNat + 1 := by
  rw [UInt16.lt_iff_toNat_lt] at hq
  simp only [Uid.maxSequence, UInt16.reduceToNat] at hq
  simp only [UInt16.toNat_add, UInt16.reduceToNat]
  omega

theorem succ_le_maxSequence {q : UInt16} (hq : q < Uid.maxSequence) :
    q + 1 ≤ Uid.maxSequence := by
  have hsucc := toNat_succ_of_lt_maxSequence hq
  rw [UInt16.lt_iff_toNat_lt] at hq
  exact UInt16.le_iff_toNat_le.2 (by omega)

/-- The identifier that an answer to a poll issues. -/
def issuedBy : Except Fault Status → Option Uid
  | .ok (.ready id) => some id
  | _ => none

/-- How a poll issues `id`: under the lease `l`, at the sequence `q`. -/
structure Issues (s : State) (nowMs : UInt64) (seed random : UInt16) (id : Uid) (l : Lease)
    (q : UInt16) : Prop where
  held : s.lease = some l
  live : l.isLive (wholeSecond nowMs) = true
  carried : canCarry (wholeSecond nowMs) = true
  unfenced : s.resumeAt ≤ wholeSecond nowMs
  fields : Uid.ofFields (wholeSecond nowMs) l.workerId q random = .ok id
  moved : (s.poll nowMs seed random).2 = { s with timestamp := wholeSecond nowMs, sequence := q }
  /-- The sequence begins at the seed in a later second, and goes on in the same one. -/
  counted : s.timestamp < wholeSecond nowMs ∧ q = seed ∨
    s.timestamp = wholeSecond nowMs ∧ s.sequence < Uid.maxSequence ∧ q = s.sequence + 1

section

variable {s : State} {nowMs : UInt64} {seed random : UInt16} {id : Uid}

theorem exists_issues (hid : issuedBy (s.poll nowMs seed random).1 = some id) :
    ∃ l q, s.Issues nowMs seed random id l q := by
  have hout := s.poll_outcome nowMs seed random
  generalize hpoll : s.poll nowMs seed random = out at hout hid
  cases hout with
  | newSecond l id' hnow hlease hfence hlater hfields =>
    cases hid
    obtain ⟨hl, hlive⟩ := liveLease?_eq_some_iff.1 hlease
    exact ⟨l, seed, hl, hlive, hnow, hfence, hfields, congrArg Prod.snd hpoll, .inl ⟨hlater, rfl⟩⟩
  | sameSecond l id' hnow hlease hfence hsame hleft hfields =>
    cases hid
    obtain ⟨hl, hlive⟩ := liveLease?_eq_some_iff.1 hlease
    exact ⟨l, s.sequence + 1, hl, hlive, hnow, hfence, hfields, congrArg Prod.snd hpoll,
      .inr ⟨hsame, hleft, rfl⟩⟩
  | _ => cases hid

/-- The sequence of an identifier fits its field. -/
theorem Issues.sequence_le {l : Lease} {q : UInt16} (h : s.Issues nowMs seed random id l q)
    (hseed : seed ≤ Uid.maxSequence) : q ≤ Uid.maxSequence := by
  rcases h.counted with ⟨-, rfl⟩ | ⟨-, hleft, rfl⟩
  · exact hseed
  · exact succ_le_maxSequence hleft

end

/-- A poll keeps the invariant, and what it issues is greater than what was issued last. -/
theorem Sound.poll {s : State} {last : Option Uid} (h : s.Sound last) (nowMs : UInt64)
    {seed : UInt16} (hseed : seed ≤ Uid.maxSequence) (random : UInt16) :
    (s.poll nowMs seed random).2.Sound ((issuedBy (s.poll nowMs seed random).1).or last) ∧
      ∀ id ∈ issuedBy (s.poll nowMs seed random).1, ∀ u ∈ last, u < id := by
  have hout := s.poll_outcome nowMs seed random
  generalize s.poll nowMs seed random = out at hout ⊢
  cases hout with
  | newSecond l id hnow hlease hfence hlater hid =>
    obtain ⟨hs, hlt⟩ :=
      h.issue (liveLease?_eq_some_iff.1 hlease).1 hid hnow hseed hfence (.inl hlater)
    exact ⟨hs, by simpa [issuedBy] using hlt⟩
  | sameSecond l id hnow hlease hfence hsame hleft hid =>
    have hsucc := toNat_succ_of_lt_maxSequence hleft
    have hlt : s.sequence < s.sequence + 1 := UInt16.lt_iff_toNat_lt.2 (by omega)
    obtain ⟨hs, hlt⟩ :=
      h.issue (liveLease?_eq_some_iff.1 hlease).1 hid hnow (succ_le_maxSequence hleft) hfence
        (.inr ⟨hsame, hlt⟩)
    exact ⟨hs, by simpa [issuedBy] using hlt⟩
  | _ => exact ⟨h, by simp [issuedBy]⟩

/-- An identifier bears the worker id of the lease held when it was issued. -/
theorem Sound.workerId_issuedBy {s : State} {last : Option Uid} (h : s.Sound last)
    {nowMs : UInt64} {seed random : UInt16} {id : Uid}
    (hid : issuedBy (s.poll nowMs seed random).1 = some id) :
    ∃ l, s.lease = some l ∧ id.workerId = l.workerId := by
  obtain ⟨l, q, hissues⟩ := exists_issues hid
  exact ⟨l, hissues.held, Uid.workerId_of_ofFields hissues.fields (h.workerId_le l hissues.held)⟩

/-- A change of the worker id raises the fence to the second after the last one used. -/
theorem resumeAt_install (s : State) (l : Lease) :
    (s.install l).resumeAt
      = if s.lease.any (·.workerId ≠ l.workerId) then max s.resumeAt (s.timestamp + 1)
        else s.resumeAt := by
  unfold install changesWorker
  cases s.lease.any (·.workerId ≠ l.workerId) with
  | false => rfl
  | true =>
    have hmax : max s.resumeAt (s.timestamp + 1)
        = if s.resumeAt ≤ s.timestamp + 1 then s.timestamp + 1 else s.resumeAt := rfl
    simp only [Bool.true_and, decide_eq_true_eq, if_true, hmax]
    split
    next hbelow => rw [if_pos (UInt64.le_of_lt hbelow)]
    next habove =>
      have habove := UInt64.not_lt.1 habove
      split
      next hle => exact UInt64.le_antisymm hle habove
      next => rfl

/-- A new lease keeps the invariant: where it changes the worker id of the last identifier, the
fence goes up or is already up. -/
theorem Sound.install {s : State} {last : Option Uid} (h : s.Sound last) {l : Lease}
    (hl : l.workerId ≤ Uid.maxWorkerId) : (s.install l).Sound last := by
  have hsucc := toNat_succ_of_le_maxTimestamp h.timestamp_le
  have hres := h.resumeAt_le
  have hle : (s.install l).resumeAt ≤ s.timestamp + 1 := by
    unfold State.install
    split
    · exact UInt64.le_refl _
    · exact hres
  exact {
    timestamp_le := by simpa using h.timestamp_le
    sequence_le := by simpa using h.sequence_le
    timestamp_eq_zero_iff := by simpa using h.timestamp_eq_zero_iff
    timestamp_last := by simpa using h.timestamp_last
    sequence_last := by simpa using h.sequence_last
    resumeAt_le := by simpa using hle
    leased := by simp
    workerId_le := by simpa using hl
    fenced := by
      intro l' hl' u hu hne
      obtain rfl : l = l' := by simpa using hl'
      obtain ⟨held, hheld⟩ : ∃ held, s.lease = some held :=
        Option.ne_none_iff_exists'.1 (h.leased (by rintro rfl; cases hu))
      rw [timestamp_install]
      unfold State.install
      split
      next => rfl
      next hkeep =>
        by_cases hworker : held.workerId = l.workerId
        · exact h.fenced held hheld u hu (hworker ▸ hne)
        · have hchange : s.changesWorker l.workerId = true := by
            simpa [changesWorker, hheld] using hworker
          rw [hchange, Bool.true_and, decide_eq_true_eq] at hkeep
          exact UInt64.le_antisymm hres (UInt64.not_lt.1 hkeep) }

end Chronicle.Generator.State
