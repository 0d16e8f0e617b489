-- SUMMARY: How long a lease runs: the time to live, the jitter drawn for it, and what becomes of a sum that is no word.
import Chronicle.CommandLine.Settings
import Chronicle.Proofs.Generator.Gate

/-!
# The length of a lease

A new lease runs for the time to live of the settings and a jitter drawn for it, or to the end of
time if that is sooner. The end of time is where the sum with the clock stops, but the time to live
and the jitter are added before that, and their sum has to be a word. Where it is none, the caller
breaks off with a worker id in hand, and no lease is installed. The tool accepts every time to live
but zero and every jitter, so there are settings for which this happens.
-/

namespace Chronicle

/-! ## Leases of a given length -/

namespace Lease

/-- The lease runs for at least `ttl` seconds and at most `jitter` more, or to the end of time. -/
structure Lasts (l : Lease) (ttl jitter : UInt64) : Prop where
  ttl_le : min (l.acquiredAt.toNat + ttl.toNat) (UInt64.size - 1) ≤ l.expiresAt.toNat
  le_jitter : l.expiresAt.toNat
    ≤ min (l.acquiredAt.toNat + ttl.toNat + jitter.toNat) (UInt64.size - 1)

variable {workerId : UInt16} {now ttl jitter length : UInt64}

theorem toNat_expiresAt_grant :
    (grant workerId now length).expiresAt.toNat
      = min (now.toNat + length.toNat) (UInt64.size - 1) :=
  Word.toNat_saturatingAdd now length

theorem lasts_grant (httl : ttl.toNat ≤ length.toNat)
    (hjitter : length.toNat ≤ ttl.toNat + jitter.toNat) :
    (grant workerId now length).Lasts ttl jitter := by
  have hacquired : (grant workerId now length).acquiredAt = now := rfl
  constructor
  all_goals
    rw [toNat_expiresAt_grant, hacquired]
    omega

theorem isLive_grant (hnow : now < Word.greatest) (hlength : 0 < length.toNat) :
    (grant workerId now length).isLive now = true := by
  rw [UInt64.lt_iff_toNat_lt] at hnow
  simp only [Word.greatest, UInt64.reduceToNat] at hnow
  rw [isLive, decide_eq_true_iff, UInt64.lt_iff_toNat_lt, toNat_expiresAt_grant]
  simp only [UInt64.size]
  omega

end Lease

namespace Generator

variable {ω : Type} {W : World ω}

/-! ## The length that is drawn -/

namespace Config

theorem ttlSeconds_pos (c : Config) : 0 < c.ttlSeconds.toNat := by
  unfold ttlSeconds
  split
  next => decide
  next h => exact Nat.pos_of_ne_zero fun hzero => h (UInt64.toNat_inj.1 hzero)

/-- The bound of the draw is missing for the greatest jitter only. -/
theorem jitterBound?_eq_none_iff (c : Config) :
    c.jitterBound? = none ↔ c.leaseJitter.seconds = Word.greatest := by
  have hlt := c.leaseJitter.seconds.toNat_lt
  unfold jitterBound?
  split
  next hzero => simp [hzero, Word.greatest]
  next =>
    rw [Word.add?_eq_none_iff, ← UInt64.toNat_inj]
    simp only [Word.greatest, UInt64.reduceToNat, UInt64.size]
    omega

/-- What is drawn is the remainder by one more than the jitter. -/
theorem toNat_below_jitterBound {c : Config} {bound : UInt64} (h : c.jitterBound? = some bound)
    (word : UInt64) :
    (Draw.below bound word).toNat = word.toNat % (c.leaseJitter.seconds.toNat + 1) := by
  unfold jitterBound? at h
  split at h
  next hzero =>
    cases h
    rw [Draw.below, if_pos rfl, hzero, UInt64.toNat_zero, Nat.mod_one]
  next =>
    have hbound := Word.add?_eq_some_iff.1 h
    have hpos : bound ≠ 0 := by
      rintro rfl
      simp at hbound
    rw [Draw.below, if_neg hpos, UInt64.toNat_mod, ← hbound]
    rfl

end Config

namespace Scene

/-- The jitter of a lease that is installed now. -/
def jitter (W : World ω) (s : Scene ω) : Nat :=
  (W.draw s.world).1.toNat % (s.generator.config.leaseJitter.seconds.toNat + 1)

variable {s : Scene ω} {length : UInt64}

theorem jitter_le : s.jitter W ≤ s.generator.config.leaseJitter.seconds.toNat :=
  Nat.le_of_lt_succ (Nat.mod_lt _ (Nat.succ_pos _))

theorem fst_drawLength (s : Scene ω) :
    (s.drawLength W).1 = s.generator.config.jitterBound?.bind fun bound =>
      Word.add? s.generator.config.ttlSeconds (Draw.below bound (W.draw s.world).1) := by
  unfold drawLength
  cases hbound : s.generator.config.jitterBound? with
  | none => rfl
  | some bound =>
    rw [Option.bind_some, ← s.fst_drawBelow]
    rfl

/-- A length that is drawn is the time to live and the jitter, without a wrap. -/
theorem toNat_length (h : (s.drawLength W).1 = some length) :
    length.toNat = s.generator.config.ttlSeconds.toNat + s.jitter W := by
  rw [fst_drawLength] at h
  obtain ⟨bound, hbound, hsum⟩ := Option.bind_eq_some_iff.1 h
  rw [← Word.add?_eq_some_iff.1 hsum, Config.toNat_below_jitterBound hbound, jitter]

/-- A lease installed now has no length: its jitter cannot be drawn, or what is drawn is no word
together with the time to live. -/
def Overlong (W : World ω) (s : Scene ω) : Prop :=
  s.generator.config.leaseJitter.seconds = Word.greatest ∨
    UInt64.size ≤ s.generator.config.ttlSeconds.toNat + s.jitter W

theorem drawLength_eq_none_iff : (s.drawLength W).1 = none ↔ s.Overlong W := by
  rw [fst_drawLength, Overlong, ← Config.jitterBound?_eq_none_iff]
  cases hbound : s.generator.config.jitterBound? with
  | none => simp
  | some bound =>
    rw [Option.bind_some, Word.add?_eq_none_iff, Config.toNat_below_jitterBound hbound, jitter]
    simp

/-- No lease is without a length where the time to live and all of the jitter fit a word. -/
theorem not_overlong
    (h : s.generator.config.ttlSeconds.toNat + s.generator.config.leaseJitter.seconds.toNat
      < UInt64.size) : ¬ s.Overlong W := by
  have hpos := s.generator.config.ttlSeconds_pos
  have hle := s.jitter_le (W := W)
  rintro (hjitter | hsum)
  · rw [hjitter] at h
    simp only [Word.greatest, UInt64.reduceToNat, UInt64.size] at h
    omega
  · omega

theorem exists_installed (h : ¬ s.Overlong W) (w : UInt16) : ∃ l, (s.install W w).1 = some l := by
  rw [← drawLength_eq_none_iff] at h
  obtain ⟨length, hlength⟩ := Option.ne_none_iff_exists'.1 h
  exact ⟨_, congrArg Prod.fst (install_of_some hlength w)⟩

theorem fst_install_of_overlong (h : s.Overlong W) (w : UInt16) : (s.install W w).1 = none :=
  congrArg Prod.fst (install_of_none (drawLength_eq_none_iff.2 h) w)

variable {w : UInt16} {l : Lease}

/-- What is installed has some length that was drawn. -/
theorem exists_eq_grant (h : (s.install W w).1 = some l) :
    ∃ length, l = Lease.grant w (s.second W) length ∧
      length.toNat = s.generator.config.ttlSeconds.toNat + s.jitter W := by
  rw [fst_install] at h
  obtain ⟨length, hlength, rfl⟩ := Option.map_eq_some_iff.1 h
  exact ⟨length, rfl, toNat_length hlength⟩

/-- A lease is live when it is installed, unless that is in the last second. -/
theorem isLive_of_installed (h : (s.install W w).1 = some l) (hnow : s.second W < Word.greatest) :
    l.isLive (s.second W) = true := by
  have hpos := s.generator.config.ttlSeconds_pos
  obtain ⟨length, rfl, hlength⟩ := exists_eq_grant h
  exact Lease.isLive_grant hnow (by omega)

theorem lasts_of_installed (h : (s.install W w).1 = some l) :
    l.Lasts s.generator.config.ttlSeconds s.generator.config.leaseJitter.seconds := by
  have hle := s.jitter_le (W := W)
  obtain ⟨length, rfl, hlength⟩ := exists_eq_grant h
  exact Lease.lasts_grant (by omega) (by omega)

end Scene

/-- A poll at which the lease held is live does not ask for another. -/
theorem State.poll_ne_leaseRequired {s : State} {l : Lease} (hlease : s.lease = some l)
    {nowMs : UInt64} (hlive : l.isLive (wholeSecond nowMs) = true) (seed random : UInt16) :
    (s.poll nowMs seed random).1 ≠ .ok .leaseRequired := by
  have hsome := liveLease?_eq_some_iff.2 ⟨hlease, hlive⟩
  have hout := s.poll_outcome nowMs seed random
  generalize s.poll nowMs seed random = out at hout
  cases hout with
  | leaseless _ hnone =>
    rw [hsome] at hnone
    cases hnone
  | _ => nofun

end Generator

/-! ## Accepted settings -/

namespace CommandLine

/-- The generator is given the time to live and the jitter as they are. -/
theorem Choices.generator_of_check {choices : Choices} {settings : Settings}
    (h : choices.check = .ok settings) :
    settings.generator.ttlSeconds = choices.leaseTtl ∧
      settings.generator.leaseJitter.seconds = choices.leaseJitter := by
  unfold Choices.check at h
  split at h
  next => cases h
  next httl =>
    iterate 3
      split at h
      · cases h
    split at h
    · cases h
    · cases h
    · cases h
      exact ⟨if_neg httl, rfl⟩

end CommandLine

namespace Generator.Traffic

section

variable {t : Traffic ω} {i : Nat} {c : Caller} {w : UInt16} {l : Lease}

theorem exists_install (h : t.deed? W (.turn i) = some (i, .installed l)) :
    ∃ w, (t.scene.install W w).1 = some l := by
  have hnext := t.next_spec W (.turn i)
  rw [h] at hnext
  generalize t.next W (.turn i) = t' at hnext
  cases hnext with
  | turn _ _ hstep =>
    cases hstep with
    | install w _ _ hlease => exact ⟨w, hlease⟩

/-- No poll asks for a lease after one that is live has been installed. -/
theorem poll_ne_leaseRequired (h : t.deed? W (.turn i) = some (i, .installed l)) {p : Poll}
    (hp : p.state = (t.next W (.turn i)).scene.state)
    (hlive : l.isLive (wholeSecond p.nowMs) = true) : p.answer ≠ .ok .leaseRequired := by
  have hheld := (t.next_spec W (.turn i)).lease_eq
  rw [h, ← hp] at hheld
  exact State.poll_ne_leaseRequired hheld hlive p.seed p.random

/-- A caller that is to install a lease for which there is a length does so. -/
theorem turn_of_not_overlong (hc : t.caller? i = some c) (hstage : c.stage = .granted w)
    (hfits : ¬ t.scene.Overlong W) :
    ∃ l, t.deed? W (.turn i) = some (i, .installed l) ∧ l.workerId = w ∧
      l.expiresAt.toNat = min ((t.scene.second W).toNat
        + (t.scene.generator.config.ttlSeconds.toNat + t.scene.jitter W)) (UInt64.size - 1) := by
  obtain ⟨l, hlease⟩ := Scene.exists_installed hfits w
  refine ⟨l, (turn_of_step hc (.install w l hstage hlease)).1,
    Scene.workerId_of_installed hlease, ?_⟩
  obtain ⟨length, rfl, hlength⟩ := Scene.exists_eq_grant hlease
  rw [Lease.toNat_expiresAt_grant, hlength]

end

open CommandLine

/-- In any run with settings that are accepted, every lease installed begins at the second of its
installation and runs for its time to live, and for no more than the jitter beyond it, or to the end
of time. Unless that second is the last one, the lease is live in it, and no poll in it asks for
another. Where the time to live and what is drawn for the jitter are a word together, a caller to
whom a worker id was granted installs a lease of that length at its next turn. Where they are none,
or the jitter is the greatest word, it breaks off: the state stays as it is, and the gate is given
back. -/
theorem lease_lasts_or_overflows {choices : Choices} {settings : Settings}
    (hcheck : choices.check = .ok settings) {ω : Type} (W : World ω) (world : ω)
    (events : List (Event ω)) :
    let t := (start settings.generator world).run W events
    (∀ i l, t.deed? W (.turn i) = some (i, .installed l) →
      l.acquiredAt = t.scene.second W ∧ l.Lasts choices.leaseTtl choices.leaseJitter ∧
      (t.scene.second W < Word.greatest → l.isLive (t.scene.second W) = true ∧
        ∀ p : Poll, p.state = (t.next W (.turn i)).scene.state →
          wholeSecond p.nowMs = t.scene.second W → p.answer ≠ .ok .leaseRequired)) ∧
    ∀ i c w, t.caller? i = some c → c.stage = .granted w →
      let jitter := (W.draw t.scene.world).1.toNat % (choices.leaseJitter.toNat + 1)
      let length := choices.leaseTtl.toNat + jitter
      (choices.leaseJitter < Word.greatest → length < UInt64.size →
        ∃ l, t.deed? W (.turn i) = some (i, .installed l) ∧ l.workerId = w ∧
          l.expiresAt.toNat = min ((t.scene.second W).toNat + length) (UInt64.size - 1)) ∧
      (choices.leaseJitter = Word.greatest ∨ UInt64.size ≤ length →
        t.deed? W (.turn i) = some (i, .overflowed) ∧
        (t.next W (.turn i)).scene.state = t.scene.state ∧
        (t.next W (.turn i)).scene.generator.gateHeld = false ∧
        (t.next W (.turn i)).caller? i = some ⟨c.wish, .done .overflowed⟩) := by
  intro t
  obtain ⟨httl, hjitter⟩ := choices.generator_of_check hcheck
  have hconfig : t.scene.generator.config = settings.generator := config_run _ events
  rw [← hconfig] at httl hjitter
  have hdrawn : t.scene.jitter W
      = (W.draw t.scene.world).1.toNat % (choices.leaseJitter.toNat + 1) := by
    rw [Scene.jitter, hjitter]
  have hoverlong : t.scene.Overlong W ↔ choices.leaseJitter = Word.greatest ∨ UInt64.size
      ≤ choices.leaseTtl.toNat + (W.draw t.scene.world).1.toNat % (choices.leaseJitter.toNat + 1) := by
    rw [Scene.Overlong, httl, hjitter, hdrawn]
  refine ⟨fun i l hl => ?lasts, fun i c w hc hstage => ?turn⟩
  case lasts =>
    obtain ⟨w, hlease⟩ := exists_install hl
    refine ⟨Scene.acquiredAt_of_installed hlease, ?_, fun hnow => ?_⟩
    · rw [← httl, ← hjitter]
      exact Scene.lasts_of_installed hlease
    · have hlive := Scene.isLive_of_installed hlease hnow
      exact ⟨hlive, fun p hp hsecond => poll_ne_leaseRequired hl hp (by rw [hsecond]; exact hlive)⟩
  case turn =>
    intro jitter length
    constructor
    · intro hbound hfits
      have hfits : ¬ t.scene.Overlong W := by
        rw [hoverlong]
        rintro (hgreatest | hsize)
        · exact UInt64.ne_of_lt hbound hgreatest
        · exact Nat.not_le.2 hfits hsize
      have hturn := turn_of_not_overlong hc hstage hfits
      rwa [httl, hdrawn] at hturn
    · intro hover
      exact turn_of_overflowed hc hstage (Scene.fst_install_of_overlong (hoverlong.2 hover) w)

/-- The time to live may be so long that a jitter of a minute just fits. -/
theorem lease_lasts_or_overflows_minute :
    let choices : Choices :=
      { dbPath := "./uexky-data", cohort := "uid", leaseTtl := Word.greatest - 60,
        leaseJitter := 60, seedSpan := 64, leaseAttempts := 3, logFormat := .text,
        command := .generate 1 }
    let W : World (UInt64 × UInt64) :=
      ⟨fun w => w.1, fun w => (121, w), fun w => (.ok (w.2 + 1), w.1, w.2 + 1), fun _ w => w⟩
    let events : List (Event (UInt64 × UInt64)) := [.arrive .lease, .turn 0, .turn 0]
    ∃ settings, choices.check = .ok settings ∧
      let t := (start settings.generator (5000, 0)).run W events
      ∃ l, t.deed? W (.turn 0) = some (0, .installed l) ∧ l.workerId = 1 ∧
        l.expiresAt = Word.greatest ∧ l.Lasts (Word.greatest - 60) 60 ∧ l.isLive 5 = true := by
  intro choices W events
  let settings : Settings := ⟨"./uexky-data", "uid",
    { leaseTtl := .ofSeconds (Word.greatest - 60), leaseJitter := .ofSeconds 60 }, .text,
    .generate 1⟩
  have hcohort : Text.trim "uid" ≠ "" := by decide
  have hcheck : choices.check = .ok settings := by
    simp [choices, settings, Choices.check, Word.greatest, hcohort]
  have hsecond : ((start settings.generator (5000, 0)).run W events).scene.second W = 5 := by
    decide
  obtain ⟨hlasts, hturn⟩ := lease_lasts_or_overflows hcheck W (5000, 0) events
  obtain ⟨l, hl, hworker, hexpires⟩ :=
    (hturn 0 ⟨.lease, .granted 1⟩ 1 rfl rfl).1 (by decide) (by decide)
  obtain ⟨-, hlong, hlive⟩ := hlasts 0 l hl
  rw [hsecond] at hlive
  refine ⟨settings, hcheck, l, hl, hworker, ?_, hlong, (hlive (by decide)).1⟩
  rw [← UInt64.toNat_inj, hexpires]
  decide

/-- The time to live is as long as it can be, and what is drawn for the jitter is no longer a word
together with it. The caller that came for a lease leaves without one. -/
theorem lease_length_overflows :
    let choices : Choices :=
      { dbPath := "./uexky-data", cohort := "uid", leaseTtl := Word.greatest, leaseJitter := 1,
        seedSpan := 64, leaseAttempts := 3, logFormat := .text, command := .generate 1 }
    let W : World (UInt64 × UInt64) :=
      ⟨fun w => w.1, fun w => (1, w), fun w => (.ok (w.2 + 1), w.1, w.2 + 1), fun _ w => w⟩
    let events : List (Event (UInt64 × UInt64)) := [.arrive .lease, .turn 0, .turn 0, .turn 0]
    ∃ settings, choices.check = .ok settings ∧ choices.leaseJitter < Word.greatest ∧
      let t := (start settings.generator (5000, 0)).run W events
      t.caller? 0 = some ⟨.lease, .done .overflowed⟩ ∧ t.scene.state.lease = none := by
  intro choices W events
  have hcohort : Text.trim "uid" ≠ "" := by decide
  have hcheck : choices.check = .ok ⟨"./uexky-data", "uid",
      { leaseTtl := .ofSeconds Word.greatest, leaseJitter := .ofSeconds 1 }, .text,
      .generate 1⟩ := by
    simp [choices, Choices.check, Word.greatest, hcohort]
  exact ⟨_, hcheck, by decide, rfl, by decide⟩

end Generator.Traffic

end Chronicle
