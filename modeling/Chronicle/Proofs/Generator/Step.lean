-- SUMMARY: The steps of a caller one by one, each with the deed by which it shows from outside.
import Chronicle.Generator.Schedule
import Chronicle.Proofs.Generator.State

/-!
# Steps of a caller

A step polls, looks at the gate, calls the store, sleeps or installs a lease. `Deed` names which of
these it was and what came of it, so that a run leaves a history behind. `Caller.Step` says for each
deed when a caller does it and what it changes, and every step of a caller is one of them.
-/

namespace Chronicle.Generator

variable {ω : Type} {W : World ω}

/-! ## Polls -/

/-- A poll: the state it met, the reading, and the seed and the random part drawn for it. -/
structure Poll where
  state : State
  nowMs : UInt64
  seed : UInt16
  random : UInt16
  deriving DecidableEq

namespace Poll

def answer (p : Poll) : Except Fault Status :=
  (p.state.poll p.nowMs p.seed p.random).1

/-- The state that the poll leaves. -/
def after (p : Poll) : State :=
  (p.state.poll p.nowMs p.seed p.random).2

/-- The identifier that the poll issues. -/
def issued? (p : Poll) : Option Uid :=
  State.issuedBy p.answer

end Poll

namespace Scene

/-- The poll that would be made now. Nothing is drawn for a reading that cannot be carried. -/
def currentPoll (W : World ω) (s : Scene ω) : Poll :=
  let nowMs := W.nowMs s.world
  if State.canCarry (wholeSecond nowMs) then
    let (seed, s') := s.drawBelow W s.generator.config.seedBound
    let (random, _) := s'.drawBelow W 512
    ⟨s.state, nowMs, seed.toUInt16, random.toUInt16⟩
  else ⟨s.state, nowMs, 0, 0⟩

@[simp] theorem state_currentPoll (s : Scene ω) : (s.currentPoll W).state = s.state := by
  unfold currentPoll
  simp only
  split <;> rfl

@[simp] theorem nowMs_currentPoll (s : Scene ω) :
    (s.currentPoll W).nowMs = W.nowMs s.world := by
  unfold currentPoll
  simp only
  split <;> rfl

@[simp] theorem fst_poll (s : Scene ω) : (s.poll W).1 = (s.currentPoll W).answer := by
  unfold poll currentPoll
  simp only
  split <;> rfl

@[simp] theorem state_poll (s : Scene ω) : (s.poll W).2.state = (s.currentPoll W).after := by
  unfold poll currentPoll
  simp only
  split
  next => rfl
  next hnow => simp [Poll.after, State.poll, hnow]

@[simp] theorem config_poll (s : Scene ω) :
    (s.poll W).2.generator.config = s.generator.config := by
  unfold poll
  simp only
  split <;> rfl

@[simp] theorem gateHeld_poll (s : Scene ω) :
    (s.poll W).2.generator.gateHeld = s.generator.gateHeld := by
  unfold poll
  simp only
  split <;> rfl

theorem toNat_seedBound (c : Config) : c.seedBound.toNat = min c.seedSpan.toNat 1024 := by
  have hle : c.seedSpan ≤ 1024 ↔ c.seedSpan.toNat ≤ 1024 := UInt16.le_iff_toNat_le
  unfold Config.seedBound
  split
  next h => rw [UInt16.toNat_toUInt64, Nat.min_eq_left (hle.1 h)]
  next h =>
    rw [hle, Nat.not_le] at h
    rw [Nat.min_eq_right (Nat.le_of_lt h)]
    rfl

theorem fst_drawBelow (s : Scene ω) (bound : UInt64) :
    (s.drawBelow W bound).1 = Draw.below bound (W.draw s.world).1 := by
  simp only [drawBelow, World.drawBelow, Draw.below]
  split <;> rfl

theorem toNat_drawBelow_lt (s : Scene ω) (bound : UInt64) :
    (s.drawBelow W bound).1.toNat < max 1 bound.toNat := by
  rw [fst_drawBelow]
  by_cases hbound : bound = 0
  · rw [Draw.below, if_pos hbound, UInt64.toNat_zero]
    omega
  · have hlt := UInt64.lt_iff_toNat_lt.1 (Draw.below_lt (W.draw s.world).1 hbound)
    omega

/-- The seed is below the span that the settings give, and below the number of sequences. -/
theorem toNat_seed_currentPoll_lt (s : Scene ω) :
    (s.currentPoll W).seed.toNat < max 1 (min s.generator.config.seedSpan.toNat 1024) := by
  unfold currentPoll
  simp only
  split
  next =>
    have hlt := s.toNat_drawBelow_lt (W := W) s.generator.config.seedBound
    rw [toNat_seedBound] at hlt
    simp only [UInt64.toNat_toUInt16]
    omega
  next =>
    rw [UInt16.toNat_zero]
    omega

/-- The seed fits the sequence field. -/
theorem seed_currentPoll_le (s : Scene ω) : (s.currentPoll W).seed ≤ Uid.maxSequence := by
  have hlt := s.toNat_seed_currentPoll_lt (W := W)
  simp only [UInt16.le_iff_toNat_le, Uid.maxSequence, UInt16.reduceToNat]
  omega

/-- The random part fits the random field. -/
theorem random_currentPoll_le (s : Scene ω) : (s.currentPoll W).random ≤ Uid.maxRandom := by
  unfold currentPoll
  simp only
  split
  next =>
    have hlt := (s.drawBelow W s.generator.config.seedBound).2.toNat_drawBelow_lt (W := W) 512
    rw [UInt16.le_iff_toNat_le]
    simp only [UInt64.toNat_toUInt16, Uid.maxRandom, UInt16.reduceToNat, UInt64.reduceToNat] at *
    omega
  next => exact UInt16.zero_le

/-! ## New leases -/

@[simp] theorem generator_drawLength (s : Scene ω) :
    (s.drawLength W).2.generator = s.generator := by
  unfold drawLength
  split <;> rfl

/-- Without a length nothing is installed. -/
theorem install_of_none {s : Scene ω} (h : (s.drawLength W).1 = none) (w : UInt16) :
    s.install W w = (none, (s.drawLength W).2) := by
  have hdrawn : s.drawLength W = (none, (s.drawLength W).2) := Prod.ext h rfl
  unfold install
  rw [hdrawn]

/-- What is installed begins at the present second and runs for the length drawn. -/
theorem install_of_some {s : Scene ω} {length : UInt64} (h : (s.drawLength W).1 = some length)
    (w : UInt16) :
    let lease := Lease.grant w (wholeSecond (W.nowMs s.world)) length
    s.install W w = (some lease, (s.drawLength W).2.setState (s.state.install lease)) := by
  intro lease
  have hdrawn : s.drawLength W = (some length, (s.drawLength W).2) := Prod.ext h rfl
  have hstate : (s.drawLength W).2.state = s.state :=
    congrArg Generator.state s.generator_drawLength
  unfold install
  rw [hdrawn]
  simp only [hstate]
  rfl

theorem fst_install (s : Scene ω) (w : UInt16) :
    (s.install W w).1
      = (s.drawLength W).1.map (Lease.grant w (wholeSecond (W.nowMs s.world))) := by
  cases h : (s.drawLength W).1 with
  | none => rw [install_of_none h, Option.map_none]
  | some length => rw [install_of_some h, Option.map_some]

@[simp] theorem config_install (s : Scene ω) (w : UInt16) :
    (s.install W w).2.generator.config = s.generator.config := by
  have hconfig := congrArg Generator.config (s.generator_drawLength (W := W))
  cases h : (s.drawLength W).1 with
  | none => rwa [install_of_none h]
  | some length => rwa [install_of_some h]

/-- A new lease costs one word at most. -/
theorem world_install (s : Scene ω) (w : UInt16) :
    (s.install W w).2.world = s.world ∨ (s.install W w).2.world = (W.draw s.world).2 := by
  have hdrawn : (s.drawLength W).2.world = s.world
      ∨ (s.drawLength W).2.world = (W.draw s.world).2 := by
    unfold drawLength
    split
    next => exact .inl rfl
    next bound _ =>
      simp only [drawBelow, World.drawBelow]
      split
      next => exact .inl rfl
      next => exact .inr rfl
  cases h : (s.drawLength W).1 with
  | none => rwa [install_of_none h]
  | some length => rwa [install_of_some h]

section

variable {s : Scene ω} {w : UInt16}

/-- A lease that is installed takes the place of the one held. -/
theorem state_of_installed {l : Lease} (h : (s.install W w).1 = some l) :
    (s.install W w).2.state = s.state.install l := by
  cases hdrawn : (s.drawLength W).1 with
  | none =>
    rw [install_of_none hdrawn] at h
    cases h
  | some length =>
    rw [install_of_some hdrawn] at h ⊢
    cases h
    rfl

/-- Where none is installed, the state stays as it is. -/
theorem state_of_overflowed (h : (s.install W w).1 = none) :
    (s.install W w).2.state = s.state := by
  cases hdrawn : (s.drawLength W).1 with
  | none =>
    rw [install_of_none hdrawn]
    exact congrArg Generator.state s.generator_drawLength
  | some length =>
    rw [install_of_some hdrawn] at h
    cases h

theorem workerId_of_installed {l : Lease} (h : (s.install W w).1 = some l) : l.workerId = w := by
  rw [fst_install] at h
  obtain ⟨length, -, rfl⟩ := Option.map_eq_some_iff.1 h
  rfl

end

end Scene

/-! ## Deeds -/

/-- What a step does, as far as it concerns anyone but the caller. -/
inductive Deed where
  | polled (p : Poll)
  /-- A live lease was met at the gate. -/
  | found (l : Lease)
  /-- No live lease was met at the gate, and the gate was taken. -/
  | entered
  /-- The store was called and gave this answer. -/
  | counted (answer : Except Fault UInt64)
  | slept (d : Duration)
  | installed (l : Lease)
  /-- A lease was to be installed, and no length for it could be drawn. -/
  | overflowed

namespace Deed

/-- The identifier that a deed issues. -/
def issued? : Deed → Option Uid
  | .polled p => p.issued?
  | _ => none

/-- The count that a deed takes from the store. -/
def count? : Deed → Option UInt64
  | .counted (.ok n) => some n
  | _ => none

/-- The lease that a deed puts in place of the one held. -/
def installed? : Deed → Option Lease
  | .installed l => some l
  | _ => none

end Deed

namespace Caller

/-- The deed of the next step, if there is one. -/
def deed? (W : World ω) (c : Caller) (s : Scene ω) : Option Deed :=
  match c.stage with
  | .polling => some (.polled (s.currentPoll W))
  | .atGate =>
    if s.generator.gateHeld then none
    else match s.state.liveLease? (wholeSecond (W.nowMs s.world)) with
      | some lease => some (.found lease)
      | none => some .entered
  | .counting _ => some (.counted (W.countLease s.world).1)
  | .retrying _ => some (.slept s.generator.config.retryDelay)
  | .granted workerId =>
    match (s.install W workerId).1 with
    | some lease => some (.installed lease)
    | none => some .overflowed
  | .waiting wait => some (.slept wait)
  | .done _ => none

/-- The steps of a caller: when it does a deed, and where it and its surroundings are afterwards. -/
inductive Step (W : World ω) (c : Caller) (s : Scene ω) : Deed → Caller → Scene ω → Prop
  | poll (hstage : c.stage = .polling) :
      Step W c s (.polled (s.currentPoll W))
        { c with stage := afterPoll c.wish (s.currentPoll W).answer } (s.poll W).2
  | find (lease : Lease) (hstage : c.stage = .atGate) (hgate : s.generator.gateHeld = false)
      (hlive : s.state.liveLease? (wholeSecond (W.nowMs s.world)) = some lease) :
      Step W c s (.found lease) { c with stage := afterLease c.wish lease } s
  | enter (hstage : c.stage = .atGate) (hgate : s.generator.gateHeld = false)
      (hlive : s.state.liveLease? (wholeSecond (W.nowMs s.world)) = none) :
      Step W c s .entered { c with stage := .counting 1 } (s.setGate true)
  | count (attempt : Nat) (n : UInt64) (hstage : c.stage = .counting attempt)
      (hanswer : (W.countLease s.world).1 = .ok n) :
      Step W c s (.counted (.ok n)) { c with stage := .granted (workerIdOfCount n) }
        { s with world := (W.countLease s.world).2 }
  | fail (attempt : Nat) (f : Fault) (hstage : c.stage = .counting attempt)
      (hanswer : (W.countLease s.world).1 = .error f)
      (hleft : attempt < s.generator.config.attempts) :
      Step W c s (.counted (.error f)) { c with stage := .retrying attempt }
        { s with world := (W.countLease s.world).2 }
  | giveUp (attempt : Nat) (f : Fault) (hstage : c.stage = .counting attempt)
      (hanswer : (W.countLease s.world).1 = .error f)
      (hleft : s.generator.config.attempts ≤ attempt) :
      Step W c s (.counted (.error f))
        { c with stage := .done (.error (.leaseUnavailable attempt f.message)) }
        ({ s with world := (W.countLease s.world).2 }.setGate false)
  | retry (attempt : Nat) (hstage : c.stage = .retrying attempt) :
      Step W c s (.slept s.generator.config.retryDelay)
        { c with stage := .counting (attempt + 1) }
        { s with world := W.sleep s.generator.config.retryDelay s.world }
  | install (workerId : UInt16) (lease : Lease) (hstage : c.stage = .granted workerId)
      (hlease : (s.install W workerId).1 = some lease) :
      Step W c s (.installed lease) { c with stage := afterLease c.wish lease }
        ((s.install W workerId).2.setGate false)
  | overflow (workerId : UInt16) (hstage : c.stage = .granted workerId)
      (hlease : (s.install W workerId).1 = none) :
      Step W c s .overflowed { c with stage := .done .overflowed }
        ((s.install W workerId).2.setGate false)
  | wake (wait : Duration) (hstage : c.stage = .waiting wait) :
      Step W c s (.slept wait) { c with stage := .polling }
        { s with world := W.sleep wait s.world }

/-- A caller that takes a step does the deed that was next for it, in one of the ways above. -/
theorem step_eq_some {c c' : Caller} {s s' : Scene ω} (h : c.step W s = some (c', s')) :
    ∃ d, c.deed? W s = some d ∧ Step W c s d c' s' := by
  obtain ⟨wish, stage⟩ := c
  cases stage with
  | polling =>
    have h : some ((⟨wish, afterPoll wish (s.poll W).1⟩ : Caller), (s.poll W).2)
        = some (c', s') := h
    rw [Scene.fst_poll] at h
    obtain ⟨rfl, rfl⟩ := Prod.mk.inj (Option.some.inj h)
    exact ⟨_, rfl, .poll rfl⟩
  | atGate =>
    simp only [Caller.step, deed?] at h ⊢
    split at h
    next => cases h
    next hgate =>
      rw [if_neg hgate]
      have hgate := Bool.eq_false_iff.2 hgate
      cases hlive : s.state.liveLease? (wholeSecond (W.nowMs s.world)) with
      | some lease =>
        rw [hlive] at h
        cases h
        exact ⟨_, rfl, .find lease rfl hgate hlive⟩
      | none =>
        rw [hlive] at h
        cases h
        exact ⟨_, rfl, .enter rfl hgate hlive⟩
  | counting attempt =>
    simp only [Caller.step] at h
    split at h
    next n hanswer =>
      cases h
      exact ⟨_, by rw [deed?, hanswer], .count attempt n rfl hanswer⟩
    next f hanswer =>
      split at h
      next hleft =>
        cases h
        exact ⟨_, by rw [deed?, hanswer], .fail attempt f rfl hanswer hleft⟩
      next hleft =>
        cases h
        exact ⟨_, by rw [deed?, hanswer], .giveUp attempt f rfl hanswer (Nat.not_lt.1 hleft)⟩
  | retrying attempt =>
    cases h
    exact ⟨_, rfl, .retry attempt rfl⟩
  | granted workerId =>
    simp only [Caller.step, deed?] at h ⊢
    split at h
    next lease after hinstall =>
      cases h
      have hlease : (s.install W workerId).1 = some lease := by rw [hinstall]
      refine ⟨_, by rw [hlease], ?_⟩
      have hstep := Step.install (W := W) (c := ⟨wish, .granted workerId⟩) workerId lease rfl hlease
      rwa [hinstall] at hstep
    next after hinstall =>
      cases h
      have hlease : (s.install W workerId).1 = none := by rw [hinstall]
      refine ⟨_, by rw [hlease], ?_⟩
      have hstep := Step.overflow (W := W) (c := ⟨wish, .granted workerId⟩) workerId rfl hlease
      rwa [hinstall] at hstep
  | waiting wait =>
    cases h
    exact ⟨_, rfl, .wake wait rfl⟩
  | done result => cases h

/-- A caller that takes no step has no deed before it. -/
theorem deed?_eq_none {c : Caller} {s : Scene ω} (h : c.step W s = none) :
    c.deed? W s = none := by
  obtain ⟨wish, stage⟩ := c
  cases stage with
  | atGate =>
    simp only [Caller.step, deed?] at h ⊢
    split at h
    next hgate => rw [if_pos hgate]
    next => split at h <;> cases h
  | counting attempt =>
    simp only [Caller.step] at h
    split at h
    next => cases h
    next => split at h <;> cases h
  | granted workerId =>
    simp only [Caller.step] at h
    split at h <;> cases h
  | done result => rfl
  | _ => cases h

section

variable {c c' : Caller} {s s' : Scene ω} {d : Deed}

/-- Every step in one of the ways of a caller is the step that it takes. -/
theorem Step.step_eq (h : Step W c s d c' s') : c.step W s = some (c', s') := by
  obtain ⟨wish, stage⟩ := c
  cases h with
  | poll hstage =>
    cases hstage
    rw [← Scene.fst_poll]
    rfl
  | find lease hstage hgate hlive | enter hstage hgate hlive =>
    cases hstage
    simp only [Caller.step, hgate, hlive, Bool.false_eq_true, if_false]
  | count attempt n hstage hanswer =>
    cases hstage
    simp only [Caller.step, hanswer]
  | fail attempt f hstage hanswer hleft =>
    cases hstage
    simp only [Caller.step, hanswer, if_pos hleft]
  | giveUp attempt f hstage hanswer hleft =>
    cases hstage
    simp only [Caller.step, hanswer, if_neg (Nat.not_lt.2 hleft)]
  | install workerId lease hstage hlease =>
    cases hstage
    simp only [Caller.step]
    split
    next found after hinstall =>
      rw [hinstall] at hlease ⊢
      cases hlease
      rfl
    next after hinstall =>
      rw [hinstall] at hlease
      cases hlease
  | overflow workerId hstage hlease =>
    cases hstage
    simp only [Caller.step]
    split
    next found after hinstall =>
      rw [hinstall] at hlease
      cases hlease
    next after hinstall => rw [hinstall]
  | retry _ hstage | wake _ hstage =>
    cases hstage
    rfl

/-- The deed of that step is the one that was next. -/
theorem Step.deed?_eq (h : Step W c s d c' s') : c.deed? W s = some d := by
  obtain ⟨wish, stage⟩ := c
  cases h with
  | find lease hstage hgate hlive | enter hstage hgate hlive =>
    cases hstage
    simp only [deed?, hgate, hlive, Bool.false_eq_true, if_false]
  | count _ _ hstage hanswer | fail _ _ hstage hanswer | giveUp _ _ hstage hanswer =>
    cases hstage
    rw [deed?, hanswer]
  | install _ _ hstage hlease | overflow _ hstage hlease =>
    cases hstage
    simp only [deed?, hlease]
  | poll hstage | retry _ hstage | wake _ hstage =>
    cases hstage
    rfl

end

/-! ## What a step changes -/

theorem afterPoll_ne_granted (wish : Wish) (answer : Except Fault Status) (w : UInt16) :
    afterPoll wish answer ≠ .granted w := by
  unfold afterPoll
  split <;> simp

theorem afterLease_ne_granted (wish : Wish) (lease : Lease) (w : UInt16) :
    afterLease wish lease ≠ .granted w := by
  unfold afterLease
  split <;> simp

theorem start_ne_granted (wish : Wish) (w : UInt16) : (start wish).stage ≠ .granted w := by
  cases wish <;> simp [start]

section

variable {c c' : Caller} {s s' : Scene ω} {d : Deed}

/-- Only a count from the store grants a worker id. -/
theorem Step.granted (h : Step W c s d c' s') {w : UInt16} (hw : c'.stage = .granted w) :
    ∃ n, d = .counted (.ok n) ∧ w = workerIdOfCount n := by
  cases h with
  | count attempt n =>
    cases hw
    exact ⟨n, rfl, rfl⟩
  | poll => exact absurd hw (afterPoll_ne_granted _ _ _)
  | find => exact absurd hw (afterLease_ne_granted _ _ _)
  | install => exact absurd hw (afterLease_ne_granted _ _ _)
  | _ => cases hw

/-- The lease held changes by being installed, and not otherwise. -/
theorem Step.lease_eq (h : Step W c s d c' s') :
    s'.state.lease = d.installed?.or s.state.lease := by
  cases h with
  | poll => simp [Deed.installed?, Poll.after]
  | install w lease hstage hlease =>
    rw [Scene.state_setGate, Scene.state_of_installed hlease, State.lease_install]
    rfl
  | overflow w hstage hlease =>
    rw [Scene.state_setGate, Scene.state_of_overflowed hlease]
    rfl
  | _ => rfl

theorem Step.config_eq (h : Step W c s d c' s') :
    s'.generator.config = s.generator.config := by
  cases h with
  | poll => exact Scene.config_poll s
  | install w | overflow w => exact Scene.config_install s w
  | _ => rfl

/-- What is installed is the worker id that the store granted. -/
theorem Step.installed (h : Step W c s d c' s') {l : Lease} (hl : d.installed? = some l) :
    c.stage = .granted l.workerId := by
  cases h with
  | install w lease hstage hlease =>
    cases hl
    rw [hstage, Scene.workerId_of_installed hlease]
  | _ => cases hl

/-- A caller leaves with an identifier exactly when its last step issues it. -/
theorem Step.identifier_result (h : Step W c s d c' s') :
    c'.result?.bind identifierOf? = d.issued? := by
  cases h with
  | poll =>
    simp only [Deed.issued?, Poll.issued?]
    generalize (s.currentPoll W).answer = answer
    cases answer with
    | error f => cases c.wish <;> rfl
    | ok status => cases status <;> cases c.wish <;> rfl
  | find lease => cases c.wish <;> rfl
  | install w => cases c.wish <;> rfl
  | _ => rfl

end

end Caller

end Chronicle.Generator
