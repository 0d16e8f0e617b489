-- SUMMARY: A visit to the store: it ends with a lease or leaves the state alone, and stays within its budget.
import Chronicle.Proofs.Generator.Answer
import Chronicle.Proofs.Generator.LeaseLength

/-!
# Visits to the store

A caller that takes the gate calls the store until a call succeeds or its attempts are used up, and
sleeps between two calls. Other callers may step in between, but none of them can call the store or
replace the lease. So a visit installs a lease of the worker id that the last call brought, or
leaves the state and the gate to the next caller as it found them. The second may happen although
the store brought a worker id, where the settings allow for leases whose length is no word.
-/

namespace Chronicle.Generator

variable {ω : Type} {W : World ω}

theorem Config.attempts_eq (c : Config) : c.attempts = max 1 c.acquireAttempts.toNat := by
  unfold attempts
  split
  next h => rw [h]; rfl
  next h =>
    have hpos : 0 < c.acquireAttempts.toNat :=
      Nat.pos_of_ne_zero fun hzero => h (UInt32.toNat_inj.1 hzero)
    exact (Nat.max_eq_right hpos).symm

/-! ## Events of one caller -/

namespace Event

/-- The event is a turn of caller `i`. -/
def isTurn (i : Nat) : Event ω → Bool
  | .turn j => j = i
  | _ => false

/-- The event is a turn of caller `i`, or drops it. -/
def concerns (i : Nat) : Event ω → Bool
  | .turn j | .leave j => j = i
  | _ => false

end Event

deriving instance DecidableEq for Deed

namespace Traffic

variable {t t' : Traffic ω} {e : Event ω} {d : Option (Nat × Deed)} {i : Nat} {c : Caller}

/-- The deeds of caller `i` in a run, in order. -/
def deedsOf (W : World ω) (t : Traffic ω) (i : Nat) (events : List (Event ω)) : List Deed :=
  (t.history W events).filterMap fun d => if d.1 = i then some d.2 else none

theorem deedsOf_append (t : Traffic ω) (past rest : List (Event ω)) :
    t.deedsOf W i (past ++ rest) = t.deedsOf W i past ++ (t.run W past).deedsOf W i rest := by
  rw [deedsOf, history_append, List.filterMap_append]
  rfl

theorem deedsOf_turn {x : Deed} (hx : t.deed? W (.turn i) = some (i, x)) (rest : List (Event ω)) :
    t.deedsOf W i (.turn i :: rest) = x :: (t.next W (.turn i)).deedsOf W i rest := by
  rw [deedsOf, history, hx, Option.toList_some, List.singleton_append]
  exact List.filterMap_cons_some (if_pos rfl)

theorem Next.caller?_eq (h : t.Next W e d t') (hc : t.caller? i = some c)
    (he : e.concerns i = false) : t'.caller? i = some c := by
  cases h with
  | arrive wish =>
    rw [caller?_arrive]
    split
    next hi =>
      rw [caller?, hi, List.getElem?_eq_none (Nat.le_refl _)] at hc
      cases hc
    next => exact hc
  | turn j hj _ | leave j hj => rw [caller?_set hj, if_neg (of_decide_eq_false he), hc]
  | _ => exact hc

end Traffic

/-! ## What a caller that holds the gate can rely on -/

/-- The lease and the fence are the same, and so is the rest of the state unless identifiers were
issued. -/
structure State.Spared (s : State) (issued : List Uid) (s' : State) : Prop where
  lease_eq : s'.lease = s.lease
  resumeAt_eq : s'.resumeAt = s.resumeAt
  eq_of_nil : issued = [] → s' = s

namespace State.Spared

theorem of_eq {s s' : State} (issued : List Uid) (h : s' = s) : s.Spared issued s' :=
  ⟨by rw [h], by rw [h], fun _ => h⟩

theorem trans {s s' s'' : State} {ids ids' : List Uid} (h : s.Spared ids s')
    (h' : s'.Spared ids' s'') : s.Spared (ids ++ ids') s'' where
  lease_eq := h'.lease_eq.trans h.lease_eq
  resumeAt_eq := h'.resumeAt_eq.trans h.resumeAt_eq
  eq_of_nil hnil :=
    have hnil := List.append_eq_nil_iff.1 hnil
    (h'.eq_of_nil hnil.2).trans (h.eq_of_nil hnil.1)

end State.Spared

/-- The deed draws words: it polls, or draws a length for a lease. -/
def Deed.draws : Deed → Bool
  | .polled _ | .installed _ | .overflowed => true
  | _ => false

theorem Deed.installed?_eq_none {d : Deed} (hd : d.draws = false) : d.installed? = none := by
  cases d with
  | installed => cases hd
  | _ => rfl

/-- The state is the same, and the world is what the store or a sleep makes of it, so that no word
is drawn. -/
structure Scene.Quiet (W : World ω) (s s' : Scene ω) : Prop where
  state_eq : s'.state = s.state
  world_eq : s'.world = s.world ∨ s'.world = (W.countLease s.world).2 ∨
    ∃ span, s'.world = W.sleep span s.world

theorem Caller.Step.quiet {c c' : Caller} {s s' : Scene ω} {d : Deed} (h : Step W c s d c' s')
    (hd : d.draws = false) : s.Quiet W s' := by
  cases h with
  | poll | install | overflow => cases hd
  | find | enter => exact ⟨rfl, .inl rfl⟩
  | count | fail | giveUp => exact ⟨rfl, .inr (.inl rfl)⟩
  | retry | wake => exact ⟨rfl, .inr (.inr ⟨_, rfl⟩)⟩

/-- The lease is replaced by a caller that holds the gate only. What else changes in the state is
changed by what is issued. -/
theorem Caller.Step.spared {c c' : Caller} {s s' : Scene ω} {d : Deed} (h : Step W c s d c' s')
    (hd : d.installed? = none) : s.state.Spared d.issued?.toList s'.state := by
  cases h with
  | poll =>
    rw [Scene.state_poll, Poll.after, Scene.state_currentPoll]
    refine ⟨State.lease_poll .., State.resumeAt_poll .., fun hnil => ?_⟩
    rw [Deed.issued?, Poll.issued?, Poll.answer, Scene.state_currentPoll, Option.toList_eq_nil_iff]
      at hnil
    exact State.poll_of_not_issued hnil
  | install => cases hd
  | overflow w hstage hlease =>
    rw [Scene.state_setGate, Scene.state_of_overflowed hlease]
    exact .of_eq _ rfl
  | _ => exact .of_eq _ rfl

namespace Traffic

variable {t t' : Traffic ω} {e : Event ω} {d : Option (Nat × Deed)} {i : Nat} {c : Caller}

/-- While caller `i` holds the gate, no other caller calls the store or replaces the lease. -/
theorem Guarded.other (hg : t.Guarded) (hi : t.Holds i) (h : t.Next W e d t')
    (he : e.concerns i = false) :
    (∀ x ∈ d, x.1 ≠ i ∧ x.2.isCall = false) ∧
      t.scene.state.Spared (d.bind (·.2.issued?)).toList t'.scene.state := by
  cases h with
  | turn j hj hstep =>
    have hne : j ≠ i := of_decide_eq_false he
    have hnot := fun hc => hne (hg.unique j i ⟨_, hj, hc⟩ hi)
    constructor
    · rintro x ⟨⟩
      exact ⟨hne, Bool.eq_false_iff.2 fun hcall => hnot (hstep.holdsGate_of_isCall hcall)⟩
    · refine hstep.spared (Option.eq_none_iff_forall_ne_some.2 fun l hl => ?_)
      exact hnot (hstep.acquiredAt hl).2
  | leave j hj =>
    refine ⟨by simp, ?_⟩
    split <;> exact .of_eq _ rfl
  | _ => exact ⟨by simp, .of_eq _ rfl⟩

/-- Events in which caller `i` does the deeds `ds`, with nobody else at the store, the lease left
alone, and no word drawn by `i`. -/
structure Kept (W : World ω) (t : Traffic ω) (i : Nat) (events : List (Event ω))
    (ds : List Deed) : Prop where
  deeds : t.deedsOf W i events = ds
  alone : ∀ d ∈ t.history W events, d.2.isCall = true → d.1 = i
  quiet : ∀ front back, events = front ++ .turn i :: back →
    (t.run W front).scene.Quiet W ((t.run W front).next W (.turn i)).scene
  spared : t.scene.state.Spared (t.issued W events) (t.run W events).scene.state

theorem Kept.nil (t : Traffic ω) : t.Kept W i [] [] :=
  ⟨rfl, by simp [history], by simp, .of_eq _ rfl⟩

theorem Kept.append {events events' : List (Event ω)} {ds ds' : List Deed}
    (h : t.Kept W i events ds) (h' : (t.run W events).Kept W i events' ds') :
    t.Kept W i (events ++ events') (ds ++ ds') where
  deeds := by rw [deedsOf_append, h.deeds, h'.deeds]
  alone := by
    intro d hd
    rw [history_append, List.mem_append] at hd
    exact hd.elim (h.alone d) (h'.alone d)
  quiet := by
    intro front back heq
    rcases List.append_eq_append_iff.1 heq with ⟨rest, rfl, rfl⟩ | ⟨rest, rfl, hrest⟩
    · rw [run_append]
      exact h'.quiet rest back rfl
    · -- the turn is the first of the events that follow, or one of those before
      cases rest with
      | nil =>
        rw [List.append_nil] at h'
        exact h'.quiet [] back hrest.symm
      | cons e rest =>
        obtain ⟨rfl, -⟩ := List.cons.inj hrest
        exact h.quiet front rest rfl
  spared := by
    rw [issued_append, run_append]
    exact h.spared.trans h'.spared

/-- One event, with the deed that it brings. -/
theorem Kept.one {d : Option (Nat × Deed)} {ds : List Deed} (hd : t.deed? W e = d)
    (hdeeds : d.toList.filterMap (fun d => if d.1 = i then some d.2 else none) = ds)
    (halone : ∀ x ∈ d, x.2.isCall = true → x.1 = i)
    (hquiet : e = .turn i → t.scene.Quiet W (t.next W e).scene)
    (hspared : t.scene.state.Spared (d.bind (·.2.issued?)).toList (t.next W e).scene.state) :
    t.Kept W i [e] ds where
  deeds := by rw [deedsOf, history, history, List.append_nil, hd, hdeeds]
  alone := by
    rw [history, history, List.append_nil, hd]
    exact fun x hx => halone x (Option.mem_toList.1 hx)
  quiet := by
    intro front back heq
    cases front with
    | nil =>
      obtain ⟨rfl, -⟩ := List.cons.inj heq
      exact hquiet rfl
    | cons e front => simp at heq
  spared := by
    rw [issued_cons, issued_nil, List.append_nil, hd]
    exact hspared

/-- A caller that holds the gate waits through events of others undisturbed. -/
theorem Guarded.kept_others (hg : t.Guarded) (hc : t.caller? i = some c)
    (hholds : c.holdsGate = true) {events : List (Event ω)}
    (hothers : ∀ e ∈ events, e.concerns i = false) :
    t.Kept W i events [] ∧ (t.run W events).caller? i = some c := by
  induction events generalizing t with
  | nil => exact ⟨.nil t, hc⟩
  | cons e events ih =>
    obtain ⟨he, hothers⟩ := List.forall_mem_cons.1 hothers
    have hnext := t.next_spec W e
    obtain ⟨hdeed, hspared⟩ := hg.other ⟨c, hc, hholds⟩ hnext he
    obtain ⟨hkept, hcaller⟩ := ih (hg.next hnext) (hnext.caller?_eq hc he) hothers
    have hone : t.Kept W i [e] [] := by
      refine .one rfl ?deeds (fun x hx hcall => ?alone) ?turn hspared
      case deeds =>
        refine List.filterMap_eq_nil_iff.2 fun x hx => if_neg ?_
        exact (hdeed x (Option.mem_toList.1 hx)).1
      case alone =>
        rw [(hdeed x hx).2] at hcall
        cases hcall
      case turn =>
        rintro rfl
        exact absurd rfl (of_decide_eq_false he)
    exact ⟨hone.append hkept, hcaller⟩

/-- One more turn, at which caller `i` draws no word. -/
theorem Kept.turn {events : List (Event ω)} {ds : List Deed} {c' : Caller} {s' : Scene ω}
    {d : Deed} (h : t.Kept W i events ds) (hc : (t.run W events).caller? i = some c)
    (hstep : Caller.Step W c (t.run W events).scene d c' s') (hd : d.draws = false) :
    t.Kept W i (events ++ [.turn i]) (ds ++ [d]) ∧
      (t.run W (events ++ [.turn i])).scene = s' ∧
      (t.run W (events ++ [.turn i])).caller? i = some c' := by
  obtain ⟨hdeed, hnext, hcaller⟩ := turn_of_step hc hstep
  have hrun : t.run W (events ++ [.turn i]) = (t.run W events).next W (.turn i) :=
    run_append _ _ _
  rw [hrun]
  refine ⟨h.append (.one hdeed (by simp) ?alone ?quiet ?spared), by rw [hnext], hcaller⟩
  case alone =>
    rintro x ⟨⟩ -
    rfl
  case quiet =>
    intro _
    rw [hnext]
    exact hstep.quiet hd
  case spared =>
    rw [hnext]
    exact hstep.spared (Deed.installed?_eq_none hd)

/-- What comes before the next turn of a caller that is not dropped, and what comes after it. -/
theorem exists_turn {events : List (Event ω)} (hstays : .leave i ∉ events)
    (hturns : 0 < events.countP (·.isTurn i)) :
    ∃ others later, events = others ++ .turn i :: later ∧
      (∀ e ∈ others, e.concerns i = false) ∧ .leave i ∉ later ∧
      later.countP (·.isTurn i) + 1 = events.countP (·.isTurn i) := by
  induction events with
  | nil => cases hturns
  | cons e events ih =>
    obtain ⟨hne, hrest⟩ := List.ne_and_not_mem_of_not_mem_cons hstays
    by_cases he : e.isTurn i = true
    · obtain rfl : e = .turn i := by
        cases e with
        | turn j => rw [of_decide_eq_true he]
        | _ => cases he
      exact ⟨[], events, rfl, by simp, hrest, (List.countP_cons_of_pos he).symm⟩
    · rw [List.countP_cons_of_neg he] at hturns ⊢
      obtain ⟨others, later, rfl, hothers, hlater, hcount⟩ := ih hrest hturns
      refine ⟨e :: others, later, rfl, ?_, hlater, hcount⟩
      refine List.forall_mem_cons.2 ⟨?_, hothers⟩
      cases e with
      | turn j => exact Bool.eq_false_iff.2 he
      | leave j => exact decide_eq_false fun hj => hne (hj ▸ rfl)
      | _ => rfl

/-- A caller that holds the gate and is not dropped takes its next turn after events of others. -/
theorem Guarded.exists_kept (hg : t.Guarded) (hc : t.caller? i = some c)
    (hholds : c.holdsGate = true) {events : List (Event ω)} (hstays : .leave i ∉ events)
    (hturns : 0 < events.countP (·.isTurn i)) :
    ∃ others later, events = others ++ .turn i :: later ∧ t.Kept W i others [] ∧
      (t.run W others).caller? i = some c ∧ .leave i ∉ later ∧
      later.countP (·.isTurn i) + 1 = events.countP (·.isTurn i) := by
  obtain ⟨others, later, rfl, hothers, hstays, hcount⟩ := exists_turn hstays hturns
  obtain ⟨hkept, hc⟩ := hg.kept_others (W := W) hc hholds hothers
  exact ⟨others, later, rfl, hkept, hc, hstays, hcount⟩

/-! ## Attempts -/

/-- The deeds of attempts that fail, with the sleep after each of them. -/
def retries (delay : Duration) (faults : List Fault) : List Deed :=
  faults.flatMap fun f => [.counted (.error f), .slept delay]

/-- In the events `visit` caller `i` does the deeds `ds`, by which it gets the count `n` from the
store, and the next turn is its own. -/
structure Granted (W : World ω) (t : Traffic ω) (i : Nat) (wish : Wish) (visit : List (Event ω))
    (ds : List Deed) (n : UInt64) : Prop where
  kept : t.Kept W i visit ds
  granted : (t.run W visit).caller? i = some ⟨wish, .granted (workerIdOfCount n)⟩

/-- In the events `visit` caller `i` does the deeds `ds`, by which it gets the count `n` from the
store. At its next turn it installs the lease `l` and gives the gate back. If it came for a lease it
leaves with `l`, and otherwise it polls again. -/
structure Leased (W : World ω) (t : Traffic ω) (i : Nat) (wish : Wish) (visit : List (Event ω))
    (ds : List Deed) (n : UInt64) (l : Lease) : Prop where
  kept : t.Kept W i visit ds
  installs : (t.run W visit).deed? W (.turn i) = some (i, .installed l)
  workerId : l.workerId.toNat = n.toNat % 512
  acquiredAt : l.acquiredAt = (t.run W visit).scene.second W
  held : ((t.run W visit).next W (.turn i)).scene.state.lease = some l
  /-- What was issued last stays on record. -/
  timestamp_eq : ((t.run W visit).next W (.turn i)).scene.state.timestamp
    = (t.run W visit).scene.state.timestamp
  sequence_eq : ((t.run W visit).next W (.turn i)).scene.state.sequence
    = (t.run W visit).scene.state.sequence
  /-- A change of the worker id raises the fence to the second after that. -/
  resumeAt_eq : ((t.run W visit).next W (.turn i)).scene.state.resumeAt
    = if (t.run W visit).scene.state.lease.any (·.workerId ≠ l.workerId) then
        max (t.run W visit).scene.state.resumeAt ((t.run W visit).scene.state.timestamp + 1)
      else (t.run W visit).scene.state.resumeAt
  goesOn : ((t.run W visit).next W (.turn i)).caller? i
    = some ⟨wish, if wish = .lease then .done (.ok (.lease l)) else .polling⟩
  free : ((t.run W visit).next W (.turn i)).scene.generator.gateHeld = false

/-- In the events `visit` caller `i` does the deeds `ds`, the last of which takes a count from the
store. At its next turn it breaks off: it installs nothing, leaves without a lease and gives the gate
back. -/
structure Overflowed (W : World ω) (t : Traffic ω) (i : Nat) (wish : Wish)
    (visit : List (Event ω)) (ds : List Deed) : Prop where
  kept : t.Kept W i visit ds
  breaksOff : (t.run W visit).deed? W (.turn i) = some (i, .overflowed)
  state_eq : ((t.run W visit).next W (.turn i)).scene.state = (t.run W visit).scene.state
  leaves : ((t.run W visit).next W (.turn i)).caller? i = some ⟨wish, .done .overflowed⟩
  free : ((t.run W visit).next W (.turn i)).scene.generator.gateHeld = false

/-- In the events `visit` caller `i` does the deeds `ds`, the last of which is the failure `f`. It
gives the gate back and leaves with word of it and of the number of attempts. -/
structure Refused (W : World ω) (t : Traffic ω) (i : Nat) (wish : Wish) (visit : List (Event ω))
    (ds : List Deed) (attempts : Nat) (f : Fault) : Prop where
  kept : t.Kept W i visit ds
  leaves : (t.run W visit).caller? i
    = some ⟨wish, .done (.error (.leaseUnavailable attempts f.message))⟩
  free : (t.run W visit).scene.generator.gateHeld = false

section

variable {events visit : List (Event ω)} {wish : Wish} {ds ds' : List Deed}

theorem Granted.prepend (hkept : t.Kept W i events ds) {n : UInt64}
    (h : Granted W (t.run W events) i wish visit ds' n) :
    Granted W t i wish (events ++ visit) (ds ++ ds') n where
  kept := hkept.append h.kept
  granted := by rw [run_append]; exact h.granted

theorem Refused.prepend (hkept : t.Kept W i events ds) {attempts : Nat} {f : Fault}
    (h : Refused W (t.run W events) i wish visit ds' attempts f) :
    Refused W t i wish (events ++ visit) (ds ++ ds') attempts f where
  kept := hkept.append h.kept
  leaves := by rw [run_append]; exact h.leaves
  free := by rw [run_append]; exact h.free

/-- A caller that has a worker id installs a lease at its turn if there is a length for it. -/
theorem Granted.exists_leased {n : UInt64} (h : Granted W t i wish visit ds n)
    (hfits : ¬ (t.run W visit).scene.Overlong W) : ∃ l, Leased W t i wish visit ds n l := by
  obtain ⟨l, hlease⟩ := Scene.exists_installed hfits (workerIdOfCount n)
  obtain ⟨hdeed, hnext, hcaller⟩ := turn_of_step h.granted (.install _ l rfl hlease)
  have hstate : ((t.run W visit).next W (.turn i)).scene.state
      = (t.run W visit).scene.state.install l := by
    rw [hnext, Scene.state_setGate, Scene.state_of_installed hlease]
  exact ⟨l, {
    kept := h.kept
    installs := hdeed
    workerId := by rw [Scene.workerId_of_installed hlease, toNat_workerIdOfCount]
    acquiredAt := Scene.acquiredAt_of_installed hlease
    held := by rw [hstate, State.lease_install]
    timestamp_eq := by rw [hstate, State.timestamp_install]
    sequence_eq := by rw [hstate, State.sequence_install]
    resumeAt_eq := by rw [hstate, State.resumeAt_install]
    goesOn := by rw [hcaller, Caller.afterLease_eq]
    free := by rw [hnext]; rfl }⟩

theorem Granted.overflowed {n : UInt64} (h : Granted W t i wish visit ds n)
    (hover : (t.run W visit).scene.Overlong W) : Overflowed W t i wish visit ds := by
  have hlease := Scene.fst_install_of_overlong hover (workerIdOfCount n)
  obtain ⟨hdeed, hstate, hfree, hleaves⟩ := turn_of_overflowed h.granted rfl hlease
  exact ⟨h.kept, hdeed, hstate, hleaves, hfree⟩

end

/-- The ends of a visit in which caller `i` is at this attempt. -/
inductive Ends (W : World ω) (t : Traffic ω) (i : Nat) (wish : Wish) (attempt : Nat)
    (rest : List (Event ω)) : Prop
  | granted (visit later : List (Event ω)) (faults : List Fault) (n : UInt64)
      (hrest : rest = visit ++ .turn i :: later)
      (hattempts : attempt + faults.length ≤ t.scene.generator.config.attempts)
      (h : Granted W t i wish visit
        (retries t.scene.generator.config.retryDelay faults ++ [.counted (.ok n)]) n)
  | refused (visit later : List (Event ω)) (faults : List Fault) (f : Fault)
      (hrest : rest = visit ++ later)
      (hattempts : attempt + faults.length = t.scene.generator.config.attempts)
      (h : Refused W t i wish visit
        (retries t.scene.generator.config.retryDelay faults ++ [.counted (.error f)])
        t.scene.generator.config.attempts f)

/-- One more failed attempt, with the sleep after it, comes before the rest of a visit. -/
theorem Ends.prepend {events rest : List (Event ω)} {wish : Wish} {attempt : Nat} {f : Fault}
    (hkept : t.Kept W i events
      [.counted (.error f), .slept t.scene.generator.config.retryDelay])
    (h : Ends W (t.run W events) i wish (attempt + 1) rest) :
    Ends W t i wish attempt (events ++ rest) := by
  cases h with
  | granted visit later faults n hrest hattempts h =>
    rw [config_run] at hattempts h
    refine .granted (events ++ visit) later (f :: faults) n (by rw [hrest, List.append_assoc]) ?_
      (h.prepend hkept)
    rw [List.length_cons]
    omega
  | refused visit later faults g hrest hattempts h =>
    rw [config_run] at hattempts h
    refine .refused (events ++ visit) later (f :: faults) g (by rw [hrest, List.append_assoc]) ?_
      (h.prepend hkept)
    rw [List.length_cons]
    omega

/-- A caller that has a worker id keeps it until its next turn. -/
theorem Guarded.exists_granted (hg : t.Guarded) {wish : Wish} {n : UInt64}
    (hc : t.caller? i = some ⟨wish, .granted (workerIdOfCount n)⟩) {rest : List (Event ω)}
    (hstays : .leave i ∉ rest) (hturns : 0 < rest.countP (·.isTurn i)) :
    ∃ visit later, rest = visit ++ .turn i :: later ∧ Granted W t i wish visit [] n := by
  obtain ⟨visit, later, rfl, hkept, hc, -, -⟩ := hg.exists_kept (W := W) hc rfl hstays hturns
  exact ⟨visit, later, rfl, hkept, hc⟩

/-- A caller whose attempt has failed, and was not the last one, comes to the next attempt. -/
theorem Guarded.exists_retried (hg : t.Guarded) {wish : Wish} {attempt : Nat}
    (hc : t.caller? i = some ⟨wish, .retrying attempt⟩) {rest : List (Event ω)}
    (hstays : .leave i ∉ rest) (hturns : 0 < rest.countP (·.isTurn i)) :
    ∃ front later, rest = front ++ later ∧
      t.Kept W i front [.slept t.scene.generator.config.retryDelay] ∧
      (t.run W front).caller? i = some ⟨wish, .counting (attempt + 1)⟩ ∧ .leave i ∉ later ∧
      later.countP (·.isTurn i) + 1 = rest.countP (·.isTurn i) := by
  obtain ⟨others, later, rfl, hkept, hc, hstays, hcount⟩ :=
    hg.exists_kept (W := W) hc rfl hstays hturns
  have hstep := Caller.Step.retry (W := W) (c := ⟨wish, .retrying attempt⟩)
    (s := (t.run W others).scene) attempt rfl
  rw [config_run] at hstep
  obtain ⟨hkept, -, hc⟩ := hkept.turn hc hstep rfl
  exact ⟨others ++ [.turn i], later, List.append_cons .., hkept, hc, hstays, hcount⟩

/-- A caller that is not dropped comes to an end of its visit within two turns for each attempt. -/
theorem Guarded.ends {t : Traffic ω} (hg : t.Guarded) {wish : Wish} {attempt : Nat} (left : Nat)
    {rest : List (Event ω)} (hc : t.caller? i = some ⟨wish, .counting attempt⟩)
    (hleft : attempt + left = t.scene.generator.config.attempts) (hstays : .leave i ∉ rest)
    (hturns : 2 * (left + 1) ≤ rest.countP (·.isTurn i)) : Ends W t i wish attempt rest := by
  obtain ⟨others, rest, rfl, hkept, hc, hstays, hcount⟩ :=
    hg.exists_kept (W := W) hc rfl hstays (by omega)
  have hconfig := config_run (W := W) t others
  have hg' := hg.run (W := W) (others ++ [.turn i])
  rw [List.append_cons]
  cases hanswer : (W.countLease (t.run W others).scene.world).1 with
  | ok n =>
    obtain ⟨hkept, -, hc⟩ := hkept.turn hc (.count attempt n rfl hanswer) rfl
    obtain ⟨visit, later, rfl, hgranted⟩ := hg'.exists_granted (W := W) hc hstays (by omega)
    refine .granted _ later [] n (List.append_assoc ..).symm ?_ (hgranted.prepend hkept)
    rw [← hleft]
    exact Nat.le_add_right _ _
  | error f =>
    rcases Nat.lt_or_ge attempt t.scene.generator.config.attempts with hmore | hlast
    · obtain ⟨left, rfl⟩ : ∃ k, left = k + 1 := Nat.exists_eq_succ_of_ne_zero (by omega)
      obtain ⟨hkept, -, hc⟩ := hkept.turn hc (.fail attempt f rfl hanswer (hconfig ▸ hmore)) rfl
      obtain ⟨front, rest, rfl, hslept, hc, hstays, hcount'⟩ :=
        hg'.exists_retried (W := W) hc hstays (by omega)
      rw [config_run] at hslept
      have hends := ends (hg'.run front) left hc (by rw [config_run, config_run]; omega) hstays
        (by omega)
      rw [← List.append_assoc]
      rw [← run_append] at hends
      exact hends.prepend (hkept.append hslept)
    · obtain ⟨hkept, hscene, hc⟩ :=
        hkept.turn hc (.giveUp attempt f rfl hanswer (hconfig ▸ hlast)) rfl
      have hattempt : attempt = t.scene.generator.config.attempts := by omega
      refine .refused (others ++ [.turn i]) rest [] f rfl hattempt ⟨hkept, ?leaves, ?free⟩
      case leaves => rw [hc, hattempt]
      case free => rw [hscene]; rfl

/-! ## All or nothing -/

/-- At any moment of any run, a caller is at the free gate with no lease live, and is not dropped
before it has had two turns for each attempt in its budget. It enters and calls the store, with a
sleep after each failure, and nobody else calls the store before it is through. If a call succeeds
within the budget, it installs a lease of that count at its next turn and goes on with it; where the
time to live and what is drawn for the jitter are no word together, it breaks off there instead. If
no call succeeds, it leaves with the last failure and has drawn no word. The lease and the fence are
then the same, and so is the rest of the state unless others were issued identifiers; and whoever
enters next starts from the first attempt. -/
theorem acquisition_all_or_nothing (W : World ω) (config : Config) (world : ω)
    (past : List (Event ω)) {t : Traffic ω} (ht : t = (start config world).run W past)
    (hc : t.caller? i = some c) (hstage : c.stage = .atGate)
    (hfree : t.scene.generator.gateHeld = false) (hlive : t.scene.liveLease? W = none)
    {rest : List (Event ω)} (hstays : .leave i ∉ rest)
    (hturns : 2 * max 1 config.acquireAttempts.toNat ≤ rest.countP (·.isTurn i)) :
    let budget := max 1 config.acquireAttempts.toNat
    (∃ visit later faults n, .turn i :: rest = visit ++ .turn i :: later ∧
      faults.length < budget ∧
      let deeds := .entered :: retries config.retryDelay faults ++ [.counted (.ok n)]
      (¬ (t.run W visit).scene.Overlong W → ∃ l, Leased W t i c.wish visit deeds n l) ∧
      ((t.run W visit).scene.Overlong W → Overflowed W t i c.wish visit deeds)) ∨
    (∃ visit later faults f, .turn i :: rest = visit ++ later ∧
      faults.length + 1 = budget ∧
      Refused W t i c.wish visit
        (.entered :: retries config.retryDelay faults ++ [.counted (.error f)]) budget f ∧
      ∀ j c', (t.run W visit).caller? j = some c' → c'.stage = .atGate →
        (t.run W visit).scene.liveLease? W = none →
        ((t.run W visit).next W (.turn j)).caller? j = some ⟨c'.wish, .counting 1⟩) := by
  intro budget
  have hconfig : t.scene.generator.config = config := by rw [ht, config_run]; rfl
  have hbudget : config.attempts = budget := config.attempts_eq
  have hguarded : t.Guarded := by
    rw [ht]
    exact (guarded_start config world).run past
  obtain ⟨hkept, -, hc⟩ := (Kept.nil t).turn hc (.enter hstage hfree hlive) rfl
  have hleft : 1 + (budget - 1) = (t.run W [.turn i]).scene.generator.config.attempts := by
    rw [config_run, hconfig, hbudget]
    omega
  have hends : Ends W (t.run W [.turn i]) i c.wish 1 rest :=
    (hguarded.run [.turn i]).ends (budget - 1) hc hleft hstays (by omega)
  cases hends with
  | granted visit later faults n hrest hattempts h =>
    rw [config_run, hconfig] at hattempts h
    have h := h.prepend hkept
    exact .inl ⟨.turn i :: visit, later, faults, n, by rw [hrest, List.cons_append], by omega,
      h.exists_leased, h.overflowed⟩
  | refused visit later faults f hrest hattempts h =>
    rw [config_run, hconfig, hbudget] at hattempts h
    have h := h.prepend hkept
    refine .inr ⟨.turn i :: visit, later, faults, f, by rw [hrest, List.cons_append], by omega, h,
      fun j c' hc' hstage' hlive' => ?_⟩
    exact (turn_of_step hc' (.enter hstage' h.free hlive')).2.2

/-- A lease has expired. The store fails twice, so that the visit of one caller changes nothing, and
once more in the visit of the next one, who then gets a lease in place of the one that is held. -/
theorem acquisition_all_or_nothing_renewed :
    let down : Fault := .internal (.database "down")
    let W : World (UInt64 × List (Except Fault UInt64)) :=
      ⟨fun w => w.1, fun w => (0, w), fun w => (w.2.headD (.error down), w.1, w.2.tail),
        fun d w => (Word.clamp (w.1.toNat + d.toMillis), w.2)⟩
    let config : Config :=
      { leaseTtl := .ofSeconds 2, leaseJitter := .ofSeconds 0, acquireAttempts := 2 }
    let past : List (Event (UInt64 × List (Except Fault UInt64))) :=
      [.arrive .lease, .turn 0, .turn 0, .turn 0,
        .drift (9000, [.error down, .error down, .error down, .ok 521]), .arrive .lease]
    let rest : List (Event (UInt64 × List (Except Fault UInt64))) :=
      [.arrive .identifier, .turn 2, .turn 1, .turn 2, .turn 1, .turn 1, .turn 1]
    let rest' : List (Event (UInt64 × List (Except Fault UInt64))) :=
      [.turn 3, .turn 3, .turn 1, .turn 3, .turn 3]
    let t := (start config (5000, [.ok 7])).run W past
    let t' := (start config (5000, [.ok 7])).run W (past ++ .turn 1 :: rest ++ [.arrive .lease])
    t.scene.state.lease = some ⟨7, 5, 7⟩ ∧
      (∃ visit, visit <+: .turn 1 :: rest ∧ Refused W t 1 .lease visit
        [.entered, .counted (.error down), .slept (.ofMillis 100), .counted (.error down)] 2 down ∧
        (t.run W visit).scene.state = t.scene.state) ∧
      t'.scene.state.lease = some ⟨7, 5, 7⟩ ∧
      ∃ visit, visit <+: .turn 3 :: rest' ∧ Leased W t' 3 .lease visit
        [.entered, .counted (.error down), .slept (.ofMillis 100), .counted (.ok 521)] 521
        ⟨9, 9, 11⟩ := by
  intro down W config past rest rest' t t'
  have ht : t = (start config (5000, [.ok 7])).run W past := rfl
  have ht' : t' = (start config (5000, [.ok 7])).run W
    (past ++ .turn 1 :: rest ++ [.arrive .lease]) := rfl
  have hc : t.caller? 1 = some ⟨.lease, .atGate⟩ := by decide
  have hc' : t'.caller? 3 = some ⟨.lease, .atGate⟩ := by decide
  have hfree : t.scene.generator.gateHeld = false := by decide
  have hfree' : t'.scene.generator.gateHeld = false := by decide
  have hlive : t.scene.liveLease? W = none := by decide
  have hlive' : t'.scene.liveLease? W = none := by decide
  have hstays : .leave 1 ∉ rest := by simp [rest]
  have hstays' : .leave 3 ∉ rest' := by simp [rest']
  have hturns : 4 ≤ rest.countP (·.isTurn 1) := by decide
  have hturns' : 4 ≤ rest'.countP (·.isTurn 3) := by decide
  have hheld : t.scene.state.lease = some ⟨7, 5, 7⟩ := by decide
  have hheld' : t'.scene.state.lease = some ⟨7, 5, 7⟩ := by decide
  have hdeeds : t.deedsOf W 1 (.turn 1 :: rest) = [.entered, .counted (.error down),
    .slept (.ofMillis 100), .counted (.error down)] := by decide
  have hdeeds' : t'.deedsOf W 3 (.turn 3 :: rest') = [.entered, .counted (.error down),
    .slept (.ofMillis 100), .counted (.ok 521), .installed ⟨9, 9, 11⟩] := by decide
  have hissued : t.issued W (.turn 1 :: rest) = [] := by decide
  have hfits (events : List (Event (UInt64 × List (Except Fault UInt64)))) :
      ¬ ((start config (5000, [.ok 7])).run W events).scene.Overlong W := by
    refine Scene.not_overlong ?_
    rw [config_run]
    decide
  clear_value t t'
  refine ⟨hheld, ?failed, hheld', ?renewed⟩
  case failed =>
    obtain ⟨visit, later, faults, n, hrest, hfaults, hleased, -⟩ |
        ⟨visit, later, faults, f, hrest, hfaults, hrefused, -⟩ :=
      acquisition_all_or_nothing W config _ _ ht hc rfl hfree hlive hstays hturns
    · -- the store would have brought a count within two attempts
      obtain ⟨l, hleased⟩ := hleased (by rw [ht, ← run_append]; exact hfits _)
      rw [hrest, deedsOf_append, hleased.kept.deeds] at hdeeds
      match faults, hfaults with
      | [], _ | [_], _ => simp [retries] at hdeeds
    · rw [hrest, deedsOf_append, hrefused.kept.deeds] at hdeeds
      rw [hrest, issued_append] at hissued
      obtain ⟨f₁, rfl⟩ := List.length_eq_one_iff.1 (Nat.succ.inj hfaults)
      obtain ⟨rfl, -, rfl, -⟩ : f₁ = down ∧ config.retryDelay = .ofMillis 100 ∧ f = down ∧ _ := by
        simpa [retries] using hdeeds
      exact ⟨visit, ⟨later, hrest.symm⟩, hrefused,
        hrefused.kept.spared.eq_of_nil (List.append_eq_nil_iff.1 hissued).1⟩
  case renewed =>
    obtain ⟨visit, later, faults, n, hrest, hfaults, hleased, -⟩ |
        ⟨visit, later, faults, f, hrest, hfaults, hrefused, -⟩ :=
      acquisition_all_or_nothing W config _ _ ht' hc' rfl hfree' hlive' hstays' hturns'
    · obtain ⟨l, hleased⟩ := hleased (by rw [ht', ← run_append]; exact hfits _)
      rw [hrest, deedsOf_append, hleased.kept.deeds, deedsOf_turn hleased.installs] at hdeeds'
      match faults, hfaults with
      | [], _ => simp [retries] at hdeeds'
      | [f], _ =>
        obtain ⟨rfl, -, rfl, rfl, -⟩ : f = down ∧ config.retryDelay = .ofMillis 100 ∧ n = 521 ∧
            l = ⟨9, 9, 11⟩ ∧ _ := by
          simpa [retries] using hdeeds'
        exact ⟨visit, ⟨_, hrest.symm⟩, hleased⟩
    · -- the second call would have failed
      rw [hrest, deedsOf_append, hrefused.kept.deeds] at hdeeds'
      obtain ⟨f₁, rfl⟩ := List.length_eq_one_iff.1 (Nat.succ.inj hfaults)
      simp [retries] at hdeeds'

end Traffic

end Chronicle.Generator
