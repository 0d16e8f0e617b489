-- SUMMARY: What the state of a generator says after any run, and the sums made of it, none of which leaves its word.
import Chronicle.Proofs.Generator.Answer

/-!
# States that are reached

After any run the state holds the second and the sequence of the last identifier issued, and the
fence stands no later than the second after it. That second is the largest number that a poll or
the fence of a new lease comes to, and there is far more room above it: nothing wraps, and no wait is
clamped at either end.
-/

namespace Chronicle.Generator

variable {ω : Type} {W : World ω}

namespace State

/-! ## Sums and waits -/

/-- No number to which a poll or the fence of a new lease comes leaves its word. -/
structure Unclamped (s : State) : Prop where
  /-- The fence that a change of worker puts up. -/
  timestamp_succ : (s.timestamp + 1).toNat = s.timestamp.toNat + 1
  sequence_succ : (s.sequence + 1).toNat = s.sequence.toNat + 1
  /-- The second that is waited for when the sequence is used up. -/
  second_succ : ∀ nowMs, canCarry (wholeSecond nowMs) = true →
    (wholeSecond nowMs + 1).toNat = (wholeSecond nowMs).toNat + 1
  /-- A wait is the exact time to the start of one of three seconds. -/
  wait : ∀ nowMs seed random wait, (s.poll nowMs seed random).1 = .ok (.pending wait) →
    ∃ second, (second = s.resumeAt ∨ second = s.timestamp ∨ second = wholeSecond nowMs + 1) ∧
      wait = waitUntil nowMs second ∧
      (Word.saturatingMul second 1000).toNat = second.toNat * 1000 ∧
      nowMs.toNat ≤ second.toNat * 1000 ∧
      wait.toMillis = second.toNat * 1000 - nowMs.toNat

theorem Sound.bounded {s : State} {last : Option Uid} (h : s.Sound last) : s.Bounded :=
  ⟨h.timestamp_le, h.resumeAt_le⟩

theorem Sound.unclamped {s : State} {last : Option Uid} (h : s.Sound last) : s.Unclamped where
  timestamp_succ := toNat_succ_of_le_maxTimestamp h.timestamp_le
  sequence_succ := by
    have hle := UInt16.le_iff_toNat_le.1 h.sequence_le
    simp only [Uid.maxSequence, UInt16.reduceToNat] at hle
    simp only [UInt16.toNat_add, UInt16.reduceToNat]
    omega
  second_succ := fun nowMs hnow => toNat_succ_of_le_maxTimestamp (canCarry_iff.1 hnow).2
  wait := by
    intro nowMs seed random wait hwait
    obtain ⟨second, rfl, hwhich, hahead, hle, -⟩ := h.bounded.exists_second hwait
    have hroom := h.bounded.second_lt_size hle
    have hmillis := toMillis_waitUntil hroom hahead
    refine ⟨second, hwhich, rfl, ?_, by omega, by omega⟩
    rw [Word.toNat_saturatingMul]
    exact Nat.min_eq_left (Nat.le_sub_one_of_lt hroom)

end State

/-! ## After any run -/

namespace Traffic

/-- Whatever the settings, the clock, the random words and the answers of the store are, and in
whichever order callers come, step and leave: the state holds the second and the sequence of the
last identifier issued, with second zero before the first, within the widths of their fields. The
fence stands no later than the second after the last identifier, and exactly there while a lease is
held under another worker id than that of the identifier. So nothing that is computed from the
state, or from a reading together with it, wraps or is clamped. -/
theorem state_tells_last_issued (W : World ω) (config : Config) (world : ω)
    (events : List (Event ω)) :
    let ids := (start config world).issued W events
    let s := ((start config world).run W events).scene.state
    s.sequence ≤ 1023 ∧ s.timestamp ≤ Uid.maxTimestamp ∧ (s.timestamp = 0 ↔ ids = []) ∧
      (∀ u, ids.getLast? = some u → s.timestamp = u.timestamp ∧ s.sequence = u.sequence) ∧
      s.resumeAt ≤ s.timestamp + 1 ∧
      (∀ l u, s.lease = some l → ids.getLast? = some u → l.workerId ≠ u.workerId →
        s.resumeAt = s.timestamp + 1) ∧
      s.Unclamped := by
  intro ids s
  have hs : s.Sound ids.getLast? := by
    have hrun := ((sound_start config world).run (W := W) events).state
    rwa [Option.or_none] at hrun
  refine ⟨hs.sequence_le, hs.timestamp_le, ?issued, fun u hu => ?last, hs.resumeAt_le, ?fenced,
    hs.unclamped⟩
  case issued => rw [hs.timestamp_eq_zero_iff, List.getLast?_eq_none_iff]
  case last => exact ⟨(hs.timestamp_last u hu).symm, (hs.sequence_last u hu).symm⟩
  case fenced => exact fun l u hl hu hne => hs.fenced l hl u hu hne

end Traffic

end Chronicle.Generator
