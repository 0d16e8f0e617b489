-- SUMMARY: A caller that nobody else disturbs gets its answer, after few polls, waits and renewals.
import Chronicle.Proofs.Generator.LeaseLength
import Mathlib.Data.Finset.Card

/-!
# A caller alone

Where time passes in sleeps and in calls to the store only, a caller that wants an identifier comes
to an end. A wait is always for one of three seconds: the end of the fence, the second of the last
identifier, or the one after it. Sleeping leaves one of them behind, and a new lease adds none, so
there are at most three waits. A new lease is still live when it is first polled with, so between
two renewals there is a wait.
-/

namespace Chronicle.Generator

variable {ω : Type} {W : World ω}

/-! ## Time that passes in sleeps -/

/-- Time passes in sleeps, by at least their span, and in calls to the store. A clock that has come
to the end of its range stays there. -/
structure World.Punctual (W : World ω) : Prop where
  draw : ∀ w, W.nowMs (W.draw w).2 = W.nowMs w
  countLease : ∀ w, W.nowMs w ≤ W.nowMs (W.countLease w).2
  sleep : ∀ d w, Word.clamp ((W.nowMs w).toNat + d.toMillis) ≤ W.nowMs (W.sleep d w)

namespace World.Punctual

variable (hW : W.Punctual)

include hW

theorem drawBelow (s : Scene ω) (bound : UInt64) :
    W.nowMs (s.drawBelow W bound).2.world = W.nowMs s.world := by
  simp only [Scene.drawBelow, World.drawBelow]
  split
  next => rfl
  next => exact hW.draw s.world

theorem poll (s : Scene ω) : W.nowMs (s.poll W).2.world = W.nowMs s.world := by
  unfold Scene.poll
  simp only
  split
  next => simp only [Scene.setState, hW.drawBelow]
  next => rfl

theorem install (s : Scene ω) (w : UInt16) :
    W.nowMs (s.install W w).2.world = W.nowMs s.world := by
  rcases s.world_install (W := W) w with hworld | hworld
  · rw [hworld]
  · rw [hworld, hW.draw]

theorem le_sleep (d : Duration) (w : ω) : W.nowMs w ≤ W.nowMs (W.sleep d w) := by
  refine UInt64.le_trans ?_ (hW.sleep d w)
  have hlt := (W.nowMs w).toNat_lt
  rw [UInt64.le_iff_toNat_le, Word.toNat_clamp]
  simp only [UInt64.size]
  omega

/-- A sleep of the right span ends no earlier than the second for which it was meant. -/
theorem le_second_of_sleep {s : Scene ω} {d : Duration} {x : Nat}
    (hd : (W.nowMs s.world).toNat + d.toMillis = x * 1000) (hx : x * 1000 < UInt64.size) :
    x ≤ (({ s with world := W.sleep d s.world } : Scene ω).second W).toNat := by
  have hsleep := UInt64.le_iff_toNat_le.1 (hW.sleep d s.world)
  rw [Word.toNat_clamp, hd] at hsleep
  simp only [Scene.second, wholeSecond, UInt64.toNat_div, UInt64.reduceToNat]
  omega

end World.Punctual

/-! ## Later scenes -/

/-- The state is the same, and the clock has not gone back. -/
structure Scene.Later (W : World ω) (s s' : Scene ω) : Prop where
  state_eq : s'.state = s.state
  config_eq : s'.generator.config = s.generator.config
  le : W.nowMs s.world ≤ W.nowMs s'.world

theorem Scene.Later.trans {s₁ s₂ s₃ : Scene ω} (h : s₁.Later W s₂) (h' : s₂.Later W s₃) :
    s₁.Later W s₃ :=
  ⟨h'.state_eq.trans h.state_eq, h'.config_eq.trans h.config_eq, UInt64.le_trans h.le h'.le⟩

theorem World.Punctual.later_countLease (hW : W.Punctual) (s : Scene ω) :
    s.Later W { s with world := (W.countLease s.world).2 } :=
  ⟨rfl, rfl, hW.countLease s.world⟩

theorem World.Punctual.later_sleep (hW : W.Punctual) (d : Duration) (s : Scene ω) :
    s.Later W { s with world := W.sleep d s.world } :=
  ⟨rfl, rfl, hW.le_sleep d s.world⟩

namespace State

/-- The seconds for which a caller may have to wait. -/
def targets (s : State) : Finset Nat :=
  {s.resumeAt.toNat, s.timestamp.toNat, s.timestamp.toNat + 1}

theorem card_targets_le (s : State) : s.targets.card ≤ 3 :=
  Finset.card_le_three

/-- A new lease adds no second to wait for. -/
theorem targets_install {s : State} {last : Option Uid} (h : s.Sound last) (l : Lease) :
    (s.install l).targets ⊆ s.targets := by
  have hsucc := toNat_succ_of_le_maxTimestamp h.timestamp_le
  intro x hx
  simp only [targets, Finset.mem_insert, Finset.mem_singleton, timestamp_install] at hx ⊢
  rcases hx with rfl | hx
  · unfold State.install
    split
    next => exact .inr (.inr hsucc)
    next => exact .inl rfl
  · exact .inr hx

/-- All of them lie within the range of the clock. -/
theorem lt_of_mem_targets {s : State} {last : Option Uid} (h : s.Sound last) {x : Nat}
    (hx : x ∈ s.targets) : x * 1000 < UInt64.size := by
  have hsucc := toNat_succ_of_le_maxTimestamp h.timestamp_le
  have hres := UInt64.le_iff_toNat_le.1 h.resumeAt_le
  have hmax := UInt64.le_iff_toNat_le.1 h.timestamp_le
  simp only [Uid.maxTimestamp, UInt64.reduceToNat] at hmax
  simp only [targets, Finset.mem_insert, Finset.mem_singleton] at hx
  rw [UInt64.size]
  omega

end State

namespace Scene

/-- The seconds that are still to be waited for. -/
def awaited (W : World ω) (s : Scene ω) : Finset Nat :=
  s.state.targets.filter ((s.second W).toNat < ·)

theorem mem_awaited {s : Scene ω} {x : Nat} :
    x ∈ s.awaited W ↔ x ∈ s.state.targets ∧ (s.second W).toNat < x :=
  Finset.mem_filter

theorem card_awaited_le (s : Scene ω) : (s.awaited W).card ≤ 3 :=
  Nat.le_trans (Finset.card_filter_le _ _) s.state.card_targets_le

theorem Later.second_le {s s' : Scene ω} (h : s.Later W s') :
    (s.second W).toNat ≤ (s'.second W).toNat :=
  UInt64.le_iff_toNat_le.1 (wholeSecond_mono h.le)

theorem awaited_subset {s s' : Scene ω} (htargets : s'.state.targets ⊆ s.state.targets)
    (hsecond : (s.second W).toNat ≤ (s'.second W).toNat) : s'.awaited W ⊆ s.awaited W := by
  intro x hx
  obtain ⟨htarget, hlt⟩ := mem_awaited.1 hx
  exact mem_awaited.2 ⟨htargets htarget, Nat.lt_of_le_of_lt hsecond hlt⟩

/-- Once one of them has come, fewer are left. -/
theorem Later.card_awaited_lt {s s' : Scene ω} (h : s.Later W s') {x : Nat}
    (hx : x ∈ s.awaited W) (hcome : x ≤ (s'.second W).toNat) :
    (s'.awaited W).card < (s.awaited W).card := by
  have htargets : s'.state.targets ⊆ s.state.targets := by rw [h.state_eq]
  refine Finset.card_lt_card ⟨awaited_subset htargets h.second_le, fun hsub => ?_⟩
  have hlt := (mem_awaited.1 (hsub hx)).2
  omega

end Scene

/-! ## What a poll leads to -/

/-- What comes of a poll in a scene whose state is sound: an identifier above the last one, a
reading that cannot be carried, no live lease, or a wait for one of the seconds awaited. -/
inductive Polled (W : World ω) (s : Scene ω) (last : Option Uid) : Except Fault Status → Prop
  | ready (id : Uid) (h : ∀ u ∈ last, u < id) : Polled W s last (.ok (.ready id))
  | outOfRange (h : State.canCarry (s.second W) = false) :
      Polled W s last (.error (.internal (.clock (s.second W))))
  | leaseless (hlive : s.liveLease? W = none) (hnow : State.canCarry (s.second W) = true)
      (hlater : s.Later W (s.poll W).2) : Polled W s last (.ok .leaseRequired)
  | pending (x : Nat) (wait : Duration) (hx : x ∈ s.awaited W)
      (hwait : (W.nowMs s.world).toNat + wait.toMillis = x * 1000)
      (hlater : s.Later W (s.poll W).2) : Polled W s last (.ok (.pending wait))

theorem polled (hW : W.Punctual) {s : Scene ω} {last : Option Uid} (h : s.state.Sound last) :
    Polled W s last (s.currentPoll W).answer := by
  have hout := (s.currentPoll W).state.poll_outcome (s.currentPoll W).nowMs
    (s.currentPoll W).seed (s.currentPoll W).random
  have hissue := (h.poll (s.currentPoll W).nowMs (s.seed_currentPoll_le (W := W))
    (s.currentPoll W).random).2
  have hlater : (s.currentPoll W).after = s.state → s.Later W (s.poll W).2 := fun hstate =>
    ⟨by rw [Scene.state_poll, hstate], Scene.config_poll s, UInt64.le_of_eq (hW.poll s).symm⟩
  -- whatever second is waited for, it lies ahead and within the range of the clock
  have hpending : ∀ x : UInt64, x.toNat ∈ s.state.targets → s.second W < x →
      (s.currentPoll W).after = s.state →
      Polled W s last (.ok (.pending (State.waitUntil (W.nowMs s.world) x))) := by
    intro x hx hlt hstate
    refine .pending x.toNat _ (Scene.mem_awaited.2 ⟨hx, UInt64.lt_iff_toNat_lt.1 hlt⟩) ?_
      (hlater hstate)
    exact State.toMillis_waitUntil (State.lt_of_mem_targets h hx) hlt
  simp only [Poll.answer, Poll.after, Scene.state_currentPoll, Scene.nowMs_currentPoll] at *
  generalize s.state.poll _ _ _ = out at *
  cases hout with
  | refused hnow => exact .outOfRange hnow
  | leaseless hnow hlive => exact .leaseless hlive hnow (hlater rfl)
  | fenced l hnow hlive hfence => exact hpending _ (by simp [State.targets]) hfence rfl
  | behind l hnow hlive hfence hbehind => exact hpending _ (by simp [State.targets]) hbehind rfl
  | exhausted l hnow hlive hfence hsame =>
    have hsucc := State.toNat_succ_of_le_maxTimestamp (State.canCarry_iff.1 hnow).2
    refine hpending _ ?_ (UInt64.lt_iff_toNat_lt.2 ?_) rfl
    · simp [State.targets, hsucc, hsame]
    · rw [hsucc]
      exact Nat.lt_succ_self _
  | newSecond l id | sameSecond l id => exact .ready id fun u hu => hissue id rfl u hu

/-! ## Courses -/

namespace Caller

variable {c c' c'' : Caller} {s s' s'' : Scene ω} {d : Deed} {ds ds' : List Deed}

/-- Steps that a caller takes one after another, with their deeds. -/
inductive Course (W : World ω) : Caller → Scene ω → List Deed → Caller → Scene ω → Prop
  | nil (c : Caller) (s : Scene ω) : Course W c s [] c s
  | cons {c c' c'' : Caller} {s s' s'' : Scene ω} {d : Deed} {ds : List Deed}
      (hstep : Step W c s d c' s') (hrest : Course W c' s' ds c'' s'') :
      Course W c s (d :: ds) c'' s''

theorem Course.one (h : Step W c s d c' s') : Course W c s [d] c' s' :=
  .cons h (.nil c' s')

theorem Course.append (h : Course W c s ds c' s') (h' : Course W c' s' ds' c'' s'') :
    Course W c s (ds ++ ds') c'' s'' := by
  induction h with
  | nil => exact h'
  | cons hstep _ ih => exact .cons hstep (ih h')

/-- A turn that is long enough takes a caller to the end of its course. -/
theorem Course.turn (h : Course W c s ds c' s') (hend : c'.step W s' = none) {steps : Nat}
    (hsteps : ds.length ≤ steps) : c.turn W false steps s = (c', s') := by
  induction h generalizing steps with
  | nil c s =>
    cases steps with
    | zero => rfl
    | succ steps => rw [Caller.turn, hend]
  | cons hstep _ ih =>
    cases steps with
    | zero => cases hsteps
    | succ steps =>
      rw [Caller.turn, hstep.step_eq]
      exact ih hend (Nat.le_of_succ_le_succ hsteps)

end Caller

/-! ## What a course costs -/

namespace Deed

def isPoll : Deed → Bool
  | .polled _ => true
  | _ => false

/-- A poll that was answered with a wait. -/
def isPending : Deed → Bool
  | .polled p =>
    match p.answer with
    | .ok (.pending _) => true
    | _ => false
  | _ => false

/-- A live lease was met at the gate, or the gate was taken to get a new one. -/
def isAcquisition : Deed → Bool
  | .found _ | .entered => true
  | _ => false

end Deed

/-- Bounds on the number of steps in a course, and on those that poll, are told to wait, or ask for
a lease. -/
structure Within (ds : List Deed) (steps polls waits acquisitions : Nat) : Prop where
  steps_le : ds.length ≤ steps
  polls_le : ds.countP (·.isPoll) ≤ polls
  waits_le : ds.countP (·.isPending) ≤ waits
  acquisitions_le : ds.countP (·.isAcquisition) ≤ acquisitions

theorem Within.one (d : Deed) :
    Within [d] 1 d.isPoll.toNat d.isPending.toNat d.isAcquisition.toNat := by
  have hcount : ∀ p : Deed → Bool, [d].countP p ≤ (p d).toNat := by
    intro p
    rw [List.countP_singleton]
    cases p d <;> exact Nat.le_refl _
  exact ⟨Nat.le_refl _, hcount _, hcount _, hcount _⟩

theorem Within.append {ds ds' : List Deed} {n p w a n' p' w' a' : Nat} (h : Within ds n p w a)
    (h' : Within ds' n' p' w' a') : Within (ds ++ ds') (n + n') (p + p') (w + w') (a + a') where
  steps_le := by
    rw [List.length_append]
    exact Nat.add_le_add h.steps_le h'.steps_le
  polls_le := by
    rw [List.countP_append]
    exact Nat.add_le_add h.polls_le h'.polls_le
  waits_le := by
    rw [List.countP_append]
    exact Nat.add_le_add h.waits_le h'.waits_le
  acquisitions_le := by
    rw [List.countP_append]
    exact Nat.add_le_add h.acquisitions_le h'.acquisitions_le

theorem Within.mono {ds : List Deed} {n p w a n' p' w' a' : Nat} (h : Within ds n p w a)
    (hn : n ≤ n') (hp : p ≤ p') (hw : w ≤ w') (ha : a ≤ a') : Within ds n' p' w' a' :=
  ⟨Nat.le_trans h.steps_le hn, Nat.le_trans h.polls_le hp, Nat.le_trans h.waits_le hw,
    Nat.le_trans h.acquisitions_le ha⟩

/-! ## Renewals -/

/-- The scene of a caller that is about to act alone: the state is sound, and nobody holds the
gate. -/
structure Poised (config : Config) (last : Option Uid) (s : Scene ω) : Prop where
  sound : s.state.Sound last
  free : s.generator.gateHeld = false
  config_eq : s.generator.config = config

theorem Poised.later {config : Config} {last : Option Uid} {s s' : Scene ω}
    (h : Poised config last s) (hlater : s.Later W s')
    (hgate : s'.generator.gateHeld = s.generator.gateHeld) : Poised config last s' where
  sound := by
    rw [hlater.state_eq]
    exact h.sound
  free := hgate.trans h.free
  config_eq := hlater.config_eq.trans h.config_eq

/-- At the store, a caller is granted a worker id, or gives up after its last attempt. -/
theorem exists_course_counting (hW : W.Punctual) (wish : Wish) (left attempt : Nat)
    {s : Scene ω} (hleft : s.generator.config.attempts ≤ attempt + left) :
    ∃ ds c' s', Caller.Course W ⟨wish, .counting attempt⟩ s ds c' s' ∧
      Within ds (2 * left + 1) 0 0 0 ∧ s.Later W s' ∧
      ((∃ w ≤ Uid.maxWorkerId, c' = ⟨wish, .granted w⟩) ∨
        ∃ n context, c' = ⟨wish, .done (.error (.leaseUnavailable n context))⟩) := by
  have hone : ∀ answer, Within [.counted answer] (2 * left + 1) 0 0 0 := fun answer =>
    (Within.one (.counted answer)).mono (by omega) (by rfl) (by rfl) (by rfl)
  have hcalled := hW.later_countLease s
  cases hanswer : (W.countLease s.world).1 with
  | ok n =>
    exact ⟨_, _, _, .one (.count attempt n rfl hanswer), hone _, hcalled,
      .inl ⟨_, workerIdOfCount_le n, rfl⟩⟩
  | error f =>
    rcases Nat.lt_or_ge attempt s.generator.config.attempts with hmore | hlast
    · obtain ⟨left, rfl⟩ : ∃ k, left = k + 1 := Nat.exists_eq_succ_of_ne_zero (by omega)
      have hslept := hW.later_sleep s.generator.config.retryDelay
        { s with world := (W.countLease s.world).2 }
      -- after the pause the caller is where it was, with one attempt fewer left
      obtain ⟨ds, c', s', hcourse, hwithin, hlater, hend⟩ :=
        exists_course_counting hW wish left (attempt + 1)
          (s := { s with
            world := W.sleep s.generator.config.retryDelay (W.countLease s.world).2 })
          (by simp only; omega)
      have hpair : Within [.counted (.error f), .slept s.generator.config.retryDelay] 2 0 0 0 :=
        (Within.one (.counted (.error f))).append (.one (.slept s.generator.config.retryDelay))
      exact ⟨_, c', s',
        .cons (.fail attempt f rfl hanswer hmore) (.cons (.retry attempt rfl) hcourse),
        (hpair.append hwithin).mono (by omega) (by omega) (by omega) (by omega),
        hcalled.trans (hslept.trans hlater), hend⟩
    · exact ⟨_, _, _, .one (.giveUp attempt f rfl hanswer hlast), hone _,
        ⟨hcalled.state_eq, hcalled.config_eq, hcalled.le⟩, .inr ⟨_, _, rfl⟩⟩

section

variable {config : Config} {last : Option Uid} {s : Scene ω}

/-- Where the clock has not left its range, a lease is live. -/
def Scene.Fresh (W : World ω) (s : Scene ω) : Prop :=
  State.canCarry (s.second W) = true → s.liveLease? W ≠ none

theorem Scene.fresh_of_installed (hW : W.Punctual) {w : UInt16} {l : Lease}
    (h : (s.install W w).1 = some l) : ((s.install W w).2.setGate false).Fresh W := by
  intro hnow
  have hsecond : ((s.install W w).2.setGate false).second W = s.second W :=
    congrArg wholeSecond (hW.install s w)
  rw [hsecond] at hnow
  have hearly : s.second W < Word.greatest :=
    UInt64.lt_of_le_of_lt (State.canCarry_iff.1 hnow).2 (by decide)
  have hheld : ((s.install W w).2.setGate false).state.lease = some l := by
    rw [Scene.state_setGate, Scene.state_of_installed h, State.lease_install]
  have hlive : ((s.install W w).2.setGate false).liveLease? W = some l := by
    rw [Scene.liveLease?, hsecond]
    exact State.liveLease?_eq_some_iff.2 ⟨hheld, Scene.isLive_of_installed h hearly⟩
  rw [hlive]
  exact Option.some_ne_none _

/-- A caller that meets no live lease at the gate gets one, or gives up. There is then no more to
wait for than before. -/
theorem Poised.exists_course_renewal (hW : W.Punctual) (h : Poised config last s)
    (hlength : config.ttlSeconds.toNat + config.leaseJitter.seconds.toNat < UInt64.size)
    (hlive : s.liveLease? W = none) :
    ∃ ds c' s', Caller.Course W ⟨.identifier, .atGate⟩ s ds c' s' ∧
      Within ds (2 * config.attempts + 1) 0 0 1 ∧
      ((c' = ⟨.identifier, .polling⟩ ∧ Poised config last s' ∧ s'.Fresh W ∧
          s'.awaited W ⊆ s.awaited W) ∨
        ∃ n context, c' = ⟨.identifier, .done (.error (.leaseUnavailable n context))⟩) := by
  have hattempts := config.attempts_pos
  have hleft : (s.setGate true).generator.config.attempts ≤ 1 + (config.attempts - 1) := by
    rw [← h.config_eq] at hattempts ⊢
    exact Nat.le_of_eq (Nat.add_sub_cancel' hattempts).symm
  obtain ⟨ds, c', s', hcourse, hwithin, hlater, hend⟩ :=
    exists_course_counting hW .identifier (config.attempts - 1) 1 hleft
  have hlater : s.Later W s' := ⟨hlater.state_eq, hlater.config_eq, hlater.le⟩
  have henter : Caller.Step W ⟨.identifier, .atGate⟩ s .entered ⟨.identifier, .counting 1⟩
      (s.setGate true) := .enter rfl h.free hlive
  have hentered : Within [.entered] 1 0 0 1 := .one .entered
  rcases hend with ⟨w, hw, rfl⟩ | ⟨n, context, rfl⟩
  · have hconfig : s'.generator.config = config := hlater.config_eq.trans h.config_eq
    have hfits : ¬ s'.Overlong W := Scene.not_overlong (by rw [hconfig]; exact hlength)
    obtain ⟨l, hl⟩ := Scene.exists_installed hfits w
    have hinstall : Caller.Step W ⟨.identifier, .granted w⟩ s' (.installed l)
        ⟨.identifier, .polling⟩ ((s'.install W w).2.setGate false) := .install w l rfl hl
    have hinstalled : Within [.installed l] 1 0 0 0 := .one _
    have hstate : ((s'.install W w).2.setGate false).state = s'.state.install l := by
      rw [Scene.state_setGate, Scene.state_of_installed hl]
    have hsound : s'.state.Sound last := by
      rw [hlater.state_eq]
      exact h.sound
    refine ⟨_, _, _, .cons henter (hcourse.append (.one hinstall)), ?_, .inl ⟨rfl, ?_, ?_, ?_⟩⟩
    · exact (hentered.append (hwithin.append hinstalled)).mono
        (by omega) (by omega) (by omega) (by omega)
    · refine ⟨?_, rfl, (Scene.config_install s' w).trans hconfig⟩
      rw [hstate]
      exact hsound.install (by rw [Scene.workerId_of_installed hl]; exact hw)
    · exact Scene.fresh_of_installed hW hl
    · refine Scene.awaited_subset ?_ ?_
      · rw [hstate, ← hlater.state_eq]
        exact State.targets_install hsound l
      · have hsecond : ((s'.install W w).2.setGate false).second W = s'.second W :=
          congrArg wholeSecond (hW.install s' w)
        rw [hsecond]
        exact hlater.second_le
  · refine ⟨_, _, _, .cons henter hcourse, ?_, .inr ⟨n, context, rfl⟩⟩
    exact (hentered.append hwithin).mono (by omega) (by omega) (by omega) (by omega)

/-! ## Rounds of polling -/

/-- What a caller for an identifier may leave with: one above the last one issued, word that no
lease was to be had, or a reading that cannot be carried. -/
inductive Settled (W : World ω) (last : Option Uid) (s : Scene ω) : Result → Prop
  | issued (id : Uid) (h : ∀ u ∈ last, u < id) : Settled W last s (.ok (.identifier id))
  | leaseless (attempts : Nat) (context : String) :
      Settled W last s (.error (.leaseUnavailable attempts context))
  | outOfRange (h : State.canCarry (s.second W) = false) :
      Settled W last s (.error (.internal (.clock (s.second W))))

/-- A caller that is about to poll leaves with an outcome, within these bounds. -/
def Answered (W : World ω) (last : Option Uid) (s : Scene ω)
    (steps polls waits acquisitions : Nat) : Prop :=
  ∃ ds r s', Caller.Course W ⟨.identifier, .polling⟩ s ds ⟨.identifier, .done r⟩ s' ∧
    Settled W last s' r ∧ Within ds steps polls waits acquisitions

theorem Answered.mono {n p w a n' p' w' a' : Nat} (h : Answered W last s n p w a)
    (hn : n ≤ n') (hp : p ≤ p') (hw : w ≤ w') (ha : a ≤ a') :
    Answered W last s n' p' w' a' := by
  obtain ⟨ds, r, s', hcourse, hsettled, hwithin⟩ := h
  exact ⟨ds, r, s', hcourse, hsettled, hwithin.mono hn hp hw ha⟩

/-- What comes before the rest of a course adds to its bounds. -/
theorem Answered.prepend {n p w a n' p' w' a' : Nat} {s' : Scene ω} {ds : List Deed}
    (h : Answered W last s' n' p' w' a')
    (hcourse : Caller.Course W ⟨.identifier, .polling⟩ s ds ⟨.identifier, .polling⟩ s')
    (hwithin : Within ds n p w a) : Answered W last s (n + n') (p + p') (w + w') (a + a') := by
  obtain ⟨ds', r, s'', hcourse', hsettled, hwithin'⟩ := h
  exact ⟨_, r, s'', hcourse.append hcourse', hsettled, hwithin.append hwithin'⟩

/-- A poll sends the caller to the gate, where it meets no live lease. -/
def Leaseless (W : World ω) (config : Config) (last : Option Uid) (s : Scene ω) : Prop :=
  ¬ s.Fresh W ∧
    ∃ d s', Caller.Step W ⟨.identifier, .polling⟩ s d ⟨.identifier, .atGate⟩ s' ∧
      Within [d] 1 1 0 0 ∧ Poised config last s' ∧ s'.liveLease? W = none ∧
      s'.awaited W ⊆ s.awaited W

/-- A poll brings an outcome, meets no live lease, or leads to a wait after which there is less to
wait for. -/
theorem Poised.exists_course_poll (hW : W.Punctual) (h : Poised config last s) :
    Answered W last s 1 1 0 0 ∨ Leaseless W config last s ∨
    ∃ ds s', Caller.Course W ⟨.identifier, .polling⟩ s ds ⟨.identifier, .polling⟩ s' ∧
      Within ds 2 1 1 0 ∧ Poised config last s' ∧ (s'.awaited W).card < (s.awaited W).card := by
  have hstep : Caller.Step W ⟨.identifier, .polling⟩ s (.polled (s.currentPoll W))
      ⟨.identifier, Caller.afterPoll .identifier (s.currentPoll W).answer⟩ (s.poll W).2 :=
    .poll rfl
  have hsecond : (s.poll W).2.second W = s.second W := congrArg wholeSecond (hW.poll s)
  have hpolled := polled hW h.sound
  generalize hanswer : (s.currentPoll W).answer = answer at hstep hpolled
  have hone : ∀ b, (Deed.polled (s.currentPoll W)).isPending = b →
      Within [.polled (s.currentPoll W)] 1 1 b.toNat 0 := by
    rintro _ rfl
    exact .one _
  cases hpolled with
  | ready id hid =>
    exact .inl ⟨_, _, _, .one hstep, .issued id hid,
      hone false (by simp only [Deed.isPending, hanswer])⟩
  | outOfRange hnow =>
    refine .inl ⟨_, _, _, .one hstep, ?_, hone false (by simp only [Deed.isPending, hanswer])⟩
    rw [← hsecond] at hnow ⊢
    exact .outOfRange hnow
  | leaseless hlive hnow hlater =>
    refine .inr (.inl ⟨fun hfresh => hfresh hnow hlive, _, _, hstep,
      hone false (by simp only [Deed.isPending, hanswer]),
      h.later hlater (Scene.gateHeld_poll s), ?_, ?_⟩)
    · rw [Scene.liveLease?, hsecond, hlater.state_eq]
      exact hlive
    · exact Scene.awaited_subset (by rw [hlater.state_eq]) hlater.second_le
  | pending x wait hx hwait hlater =>
    have hwake : Caller.Step W ⟨.identifier, .waiting wait⟩ (s.poll W).2 (.slept wait)
        ⟨.identifier, .polling⟩ { (s.poll W).2 with world := W.sleep wait (s.poll W).2.world } :=
      .wake wait rfl
    have hlater : s.Later W { (s.poll W).2 with world := W.sleep wait (s.poll W).2.world } :=
      hlater.trans (hW.later_sleep wait _)
    -- the wait is long enough for the second to have come
    have hcome := hW.le_second_of_sleep (s := (s.poll W).2) (d := wait) (x := x)
      (by rw [hW.poll]; exact hwait)
      (State.lt_of_mem_targets h.sound (Scene.mem_awaited.1 hx).1)
    have hpoll : Within [.polled (s.currentPoll W)] 1 1 1 0 :=
      hone true (by simp only [Deed.isPending, hanswer])
    exact .inr (.inr ⟨_, _, .cons hstep (.one hwake), hpoll.append (.one (.slept wait)),
      h.later hlater (Scene.gateHeld_poll s), hlater.card_awaited_lt hx hcome⟩)

section

variable (hW : W.Punctual) {k m : Nat} (hk : (s.awaited W).card ≤ k)

include hW hk

/-- As long as no renewal is needed first, `k` seconds to wait for cost at most `k` renewals, one
after each of them. -/
theorem Poised.answered_or_leaseless (h : Poised config last s)
    (hrest : ∀ j < k, ∀ {s' : Scene ω}, Poised config last s' → (s'.awaited W).card ≤ j →
      Answered W last s' ((j + 1) * m + 3 * j + 2) (2 * j + 2) j (j + 1)) :
    Answered W last s (k * (m + 3) + 1) (2 * k + 1) k k ∨ Leaseless W config last s := by
  rcases h.exists_course_poll hW with hdone | hleaseless |
    ⟨ds, s', hcourse, hwithin, hpoised, hcard⟩
  · exact .inl (hdone.mono (by omega) (by omega) (by omega) (by omega))
  · exact .inr hleaseless
  · obtain ⟨j, rfl⟩ : ∃ j, k = j + 1 := Nat.exists_eq_succ_of_ne_zero (by omega)
    have hrest := (hrest j (Nat.lt_succ_self j) hpoised (by omega)).prepend hcourse hwithin
    refine .inl (hrest.mono (Nat.le_of_eq ?_) (by omega) (by omega) (by omega))
    rw [Nat.mul_add]
    omega

/-- Where `k` seconds are to be waited for, a caller leaves after at most `k` waits, with at most
one renewal more. A renewal takes at most `m` steps. -/
theorem Poised.answered (h : Poised config last s)
    (hlength : config.ttlSeconds.toNat + config.leaseJitter.seconds.toNat < UInt64.size)
    (hm : m = 2 * config.attempts + 1) :
    Answered W last s ((k + 1) * m + 3 * k + 2) (2 * k + 2) k (k + 1) := by
  induction k using Nat.strongRecOn generalizing s with
  | ind k ih =>
    have hrest : ∀ j < k, ∀ {s' : Scene ω}, Poised config last s' → (s'.awaited W).card ≤ j →
        Answered W last s' ((j + 1) * m + 3 * j + 2) (2 * j + 2) j (j + 1) :=
      fun j hj _ hpoised hcard => ih j hj hcard hpoised
    have hsteps : (k + 1) * m + 3 * k = m + k * (m + 3) := by
      rw [Nat.mul_add, Nat.succ_mul]
      omega
    rcases h.answered_or_leaseless hW hk hrest with hanswered |
      ⟨-, d, s₁, hstep, hone, hpoised, hlive, hsub⟩
    · exact hanswered.mono (by omega) (by omega) (by omega) (by omega)
    · obtain ⟨ds, c', s', hcourse, hwithin, hend⟩ :=
        hpoised.exists_course_renewal hW hlength hlive
      rw [← hm] at hwithin
      rcases hend with ⟨rfl, hpoised', hfresh, hsub'⟩ | ⟨n, context, rfl⟩
      · -- the next poll meets the new lease
        have hcard := Finset.card_le_card (hsub'.trans hsub)
        have hanswered : Answered W last s' (k * (m + 3) + 1) (2 * k + 1) k k :=
          (hpoised'.answered_or_leaseless hW (Nat.le_trans hcard hk) hrest).resolve_right
            fun hleaseless => hleaseless.1 hfresh
        exact (hanswered.prepend (.cons hstep hcourse) (hone.append hwithin)).mono
          (by omega) (by omega) (by omega) (by omega)
      · exact ⟨_, _, _, .cons hstep hcourse, .leaseless n context,
          (hone.append hwithin).mono (by omega) (by omega) (by omega) (by omega)⟩

end

end

/-! ## From any traffic on -/

namespace Traffic

/-- Whatever has happened at a generator, if nobody else uses it and time passes in sleeps and in
calls to the store only, a caller for an identifier leaves: after at most eight polls, three of
them answered with a wait, and four visits to the gate. It leaves with an identifier above all that
were issued, because no lease was to be had, or because the clock has left its range. -/
theorem next_returns (hW : W.Punctual) (config : Config) (world : ω) (events : List (Event ω))
    (hlength : config.ttlSeconds.toNat + config.leaseJitter.seconds.toNat < UInt64.size)
    (halone : ∀ i, ¬ ((start config world).run W events).Holds i) :
    let t := (start config world).run W events
    ∃ ds r s', Caller.Course W (.start .identifier) t.scene ds ⟨.identifier, .done r⟩ s' ∧
      (∀ steps, 8 * config.attempts + 15 ≤ steps →
        runAlone W steps .identifier t.scene = (some r, s')) ∧
      ds.countP (·.isPoll) ≤ 8 ∧ ds.countP (·.isPending) ≤ 3 ∧
      ds.countP (·.isAcquisition) ≤ 4 ∧
      ((∃ id, r = .ok (.identifier id) ∧ ∀ u ∈ (start config world).issued W events, u < id) ∨
        (∃ attempts context, r = .error (.leaseUnavailable attempts context)) ∨
        (r = .error (.internal (.clock (s'.second W))) ∧
          State.canCarry (s'.second W) = false)) := by
  intro t
  have hsound := (sound_start config world).run (W := W) events
  have hascending := (sound_start config world).pairwise_issued (W := W) events
  rw [Option.or_none] at hsound
  have hpoised : Poised config ((start config world).issued W events).getLast? t.scene := by
    refine ⟨hsound.state, Bool.eq_false_iff.2 fun hheld => ?_, config_run _ _⟩
    obtain ⟨i, hi⟩ := ((guarded_start config world).run events).held_iff.1 hheld
    exact halone i hi
  obtain ⟨ds, r, s', hcourse, hsettled, hwithin⟩ :=
    hpoised.answered hW t.scene.card_awaited_le hlength rfl
  refine ⟨ds, r, s', hcourse, ?_, hwithin.polls_le, hwithin.waits_le, hwithin.acquisitions_le, ?_⟩
  · intro steps hsteps
    have hlength := hwithin.steps_le
    have hturn : (Caller.start .identifier).turn W false steps t.scene
        = (⟨.identifier, .done r⟩, s') := hcourse.turn rfl (by omega)
    rw [runAlone, hturn]
    rfl
  · cases hsettled with
    | issued id hid => exact .inl ⟨id, rfl, lt_of_getLast? hascending hid⟩
    | leaseless attempts context => exact .inr (.inl ⟨attempts, context, rfl⟩)
    | outOfRange hnow => exact .inr (.inr ⟨rfl, hnow⟩)

/-- The clock has gone back behind the last identifier. The sleep that follows is longer than it
had to be, so that the lease expires in it. -/
theorem next_returns_overslept :
    let W : World (UInt64 × UInt64) :=
      ⟨fun w => w.1, fun w => (0, w),
        fun w => (.ok (w.2 + 1), Word.saturatingAdd w.1 20, w.2 + 1),
        fun d w => (Word.clamp (w.1.toNat + d.toMillis + 3000), w.2)⟩
    let config : Config := { leaseTtl := .ofSeconds 6, leaseJitter := .ofSeconds 0 }
    let events : List (Event (UInt64 × UInt64)) :=
      [.arrive .identifier, .turn 0, .turn 0, .turn 0, .turn 0, .drift (9500, 1), .turn 0,
        .drift (3000, 1)]
    let t := start config (5000, 0)
    W.Punctual ∧ config.ttlSeconds.toNat + config.leaseJitter.seconds.toNat < UInt64.size ∧
      (∀ i, ¬ (t.run W events).Holds i) ∧ (t.issued W events).map (·.raw) = [2416443392] ∧
      ∃ ds r s', Caller.Course W (.start .identifier) (t.run W events).scene ds
          ⟨.identifier, .done r⟩ s' ∧
        (identifierOf? r).map (·.raw) = some 3222274048 ∧
        ds.countP (·.isPoll) ≤ 8 ∧ ds.countP (·.isPending) ≤ 3 ∧
        ds.countP (·.isAcquisition) ≤ 4 := by
  intro W config events t
  have hW : W.Punctual := by
    refine ⟨fun _ => rfl, fun w => ?_, fun d w => ?_⟩
    · have hlt := w.1.toNat_lt
      simp only [W, UInt64.le_iff_toNat_le, Word.toNat_saturatingAdd, UInt64.size]
      omega
    · simp only [W, UInt64.le_iff_toNat_le, Word.toNat_clamp]
      omega
  have hlength : config.ttlSeconds.toNat + config.leaseJitter.seconds.toNat < UInt64.size := by
    decide
  have hfree : (t.run W events).scene.generator.gateHeld = false := by decide
  have halone := ((guarded_start config (5000, 0)).run events).not_holds hfree
  obtain ⟨ds, r, s', hcourse, hrun, hpolls, hwaits, hacquisitions, -⟩ :=
    next_returns hW config (5000, 0) events hlength halone
  have hraw : ((runAlone W 39 .identifier (t.run W events).scene).1.bind identifierOf?).map (·.raw)
      = some 3222274048 := by decide
  rw [hrun 39 (by decide)] at hraw
  exact ⟨hW, hlength, halone, by decide, ds, r, s', hcourse, hraw, hpolls, hwaits, hacquisitions⟩

end Traffic

end Chronicle.Generator
