-- SUMMARY: Runs of one generator with any number of callers, and the order of what they issue.
import Chronicle.Proofs.Generator.Step

/-!
# Traffic at a generator

Callers come, take their steps in any order and may be dropped anywhere; between two steps the
world may be any other, so that the clock may read anything and the store may answer anything. A
run is a list of such events. Its history lists the deeds of the callers in order, and the
identifiers issued in it ascend.
-/

namespace Chronicle.Generator

variable {ω : Type} {W : World ω}

/-- The caller holds the gate. -/
def Caller.holdsGate (c : Caller) : Bool :=
  match c.stage with
  | .counting _ | .retrying _ | .granted _ => true
  | _ => false

/-- A generator, its surroundings, and the callers that have come to it. -/
structure Traffic (ω : Type) where
  scene : Scene ω
  /-- The callers in the order of their coming. One that was dropped leaves its place empty. -/
  callers : List (Option Caller)

/-- What can happen next. -/
inductive Event (ω : Type) where
  /-- One more caller comes. -/
  | arrive (wish : Wish)
  /-- The caller of this number takes a step, if it can. -/
  | turn (caller : Nat)
  /-- The caller of this number is dropped, and with it the gate if it holds it. -/
  | leave (caller : Nat)
  /-- The world becomes another one. -/
  | drift (world : ω)

namespace Traffic

/-! ## Runs -/

/-- A generator that nobody has come to. -/
def start (config : Config) (world : ω) : Traffic ω :=
  ⟨⟨{ config }, world⟩, []⟩

def caller? (t : Traffic ω) (i : Nat) : Option Caller :=
  t.callers[i]?.join

def next (W : World ω) (t : Traffic ω) : Event ω → Traffic ω
  | .arrive wish => { t with callers := t.callers ++ [some (.start wish)] }
  | .turn i =>
    match (t.caller? i).bind (·.step W t.scene) with
    | some (c, s) => ⟨s, t.callers.set i (some c)⟩
    | none => t
  | .leave i =>
    match t.caller? i with
    | some c => ⟨if c.holdsGate then t.scene.setGate false else t.scene, t.callers.set i none⟩
    | none => t
  | .drift world => { t with scene.world := world }

/-- The deed done in an event, with the number of the caller that does it. -/
def deed? (W : World ω) (t : Traffic ω) : Event ω → Option (Nat × Deed)
  | .turn i => ((t.caller? i).bind (·.deed? W t.scene)).map (i, ·)
  | _ => none

def run (W : World ω) (t : Traffic ω) (events : List (Event ω)) : Traffic ω :=
  events.foldl (next W) t

/-- The deeds of a run in order. -/
def history (W : World ω) (t : Traffic ω) : List (Event ω) → List (Nat × Deed)
  | [] => []
  | e :: events => (t.deed? W e).toList ++ history W (t.next W e) events

/-- The identifiers issued in a run, in the order in which they are issued. -/
def issued (W : World ω) (t : Traffic ω) (events : List (Event ω)) : List Uid :=
  (t.history W events).filterMap (·.2.issued?)

/-! ## What an event does -/

/-- The events, each with the deed that it brings and the traffic that it leaves. -/
inductive Next (W : World ω) (t : Traffic ω) : Event ω → Option (Nat × Deed) → Traffic ω → Prop
  | arrive (wish : Wish) :
      Next W t (.arrive wish) none { t with callers := t.callers ++ [some (.start wish)] }
  | turn (i : Nat) {c c' : Caller} {d : Deed} {s' : Scene ω} (hc : t.caller? i = some c)
      (hstep : Caller.Step W c t.scene d c' s') :
      Next W t (.turn i) (some (i, d)) ⟨s', t.callers.set i (some c')⟩
  /-- The caller waits, is done, or is not there. -/
  | idle (i : Nat) : Next W t (.turn i) none t
  | leave (i : Nat) {c : Caller} (hc : t.caller? i = some c) :
      Next W t (.leave i) none
        ⟨if c.holdsGate then t.scene.setGate false else t.scene, t.callers.set i none⟩
  | absent (i : Nat) : Next W t (.leave i) none t
  | drift (world : ω) : Next W t (.drift world) none { t with scene.world := world }

theorem next_spec (W : World ω) (t : Traffic ω) (e : Event ω) :
    t.Next W e (t.deed? W e) (t.next W e) := by
  cases e with
  | arrive wish => exact .arrive wish
  | turn i =>
    simp only [next, deed?]
    cases hc : t.caller? i with
    | none => exact .idle i
    | some c =>
      simp only [Option.bind_some]
      cases hstep : c.step W t.scene with
      | none =>
        rw [Caller.deed?_eq_none hstep]
        exact .idle i
      | some after =>
        obtain ⟨d, hd, hs⟩ := Caller.step_eq_some hstep
        rw [hd]
        exact .turn i hc hs
  | leave i =>
    simp only [next, deed?]
    cases hc : t.caller? i with
    | none => exact .absent i
    | some c => exact .leave i hc
  | drift world => exact .drift world

theorem run_append (t : Traffic ω) (past events : List (Event ω)) :
    t.run W (past ++ events) = (t.run W past).run W events :=
  List.foldl_append

theorem history_append (t : Traffic ω) (past rest : List (Event ω)) :
    t.history W (past ++ rest) = t.history W past ++ (t.run W past).history W rest := by
  induction past generalizing t with
  | nil => rfl
  | cons e past ih =>
    rw [List.cons_append, history, history, List.append_assoc, ih (t.next W e)]
    rfl

theorem caller?_arrive (t : Traffic ω) (c : Caller) (j : Nat) :
    ({ t with callers := t.callers ++ [some c] } : Traffic ω).caller? j
      = if j = t.callers.length then some c else t.caller? j := by
  unfold caller?
  by_cases hj : j < t.callers.length
  · rw [List.getElem?_append_left hj, if_neg (Nat.ne_of_lt hj)]
  · rw [List.getElem?_append_right (Nat.not_lt.1 hj), List.getElem?_eq_none (Nat.not_lt.1 hj)]
    by_cases heq : j = t.callers.length
    · simp [heq]
    · rw [if_neg heq, List.getElem?_eq_none (by simp; omega)]

theorem caller?_set {t : Traffic ω} {i : Nat} {c : Caller} (hc : t.caller? i = some c)
    (s : Scene ω) (c' : Option Caller) (j : Nat) :
    ({ scene := s, callers := t.callers.set i c' } : Traffic ω).caller? j
      = if i = j then c' else t.caller? j := by
  have hi : i < t.callers.length := by
    refine Nat.lt_of_not_le fun hle => ?_
    rw [caller?, List.getElem?_eq_none hle] at hc
    cases hc
  unfold caller?
  by_cases heq : i = j
  · subst heq
    rw [List.getElem?_set_self hi, if_pos rfl]
    rfl
  · rw [List.getElem?_set_ne heq, if_neg heq]

/-- What a step of caller `i` makes of its turn. -/
theorem turn_of_step {t : Traffic ω} {i : Nat} {c c' : Caller} {s' : Scene ω} {d : Deed}
    (hc : t.caller? i = some c) (hstep : Caller.Step W c t.scene d c' s') :
    t.deed? W (.turn i) = some (i, d) ∧
      t.next W (.turn i) = ⟨s', t.callers.set i (some c')⟩ ∧
      (t.next W (.turn i)).caller? i = some c' := by
  have hnext : t.next W (.turn i) = ⟨s', t.callers.set i (some c')⟩ := by
    simp only [next, hc, Option.bind_some, hstep.step_eq]
  refine ⟨by simp only [deed?, hc, Option.bind_some, hstep.deed?_eq, Option.map_some], hnext, ?_⟩
  rw [hnext, caller?_set hc, if_pos rfl]

/-- A caller that is to install a lease of no length breaks off and gives the gate back. -/
theorem turn_of_overflowed {t : Traffic ω} {i : Nat} {c : Caller} {w : UInt16}
    (hc : t.caller? i = some c) (hstage : c.stage = .granted w)
    (hlease : (t.scene.install W w).1 = none) :
    t.deed? W (.turn i) = some (i, .overflowed) ∧
      (t.next W (.turn i)).scene.state = t.scene.state ∧
      (t.next W (.turn i)).scene.generator.gateHeld = false ∧
      (t.next W (.turn i)).caller? i = some ⟨c.wish, .done .overflowed⟩ := by
  obtain ⟨hdeed, hnext, hcaller⟩ := turn_of_step hc (.overflow w hstage hlease)
  refine ⟨hdeed, ?_, by rw [hnext]; rfl, hcaller⟩
  rw [hnext, Scene.state_setGate, Scene.state_of_overflowed hlease]

section

variable {t t' : Traffic ω} {e : Event ω} {d : Option (Nat × Deed)}

/-- A caller to whom a worker id is granted had it before, and was not the one to act, or has just
got it from the store. -/
theorem Next.granted (h : t.Next W e d t') {j : Nat} {c : Caller} {w : UInt16}
    (hc : t'.caller? j = some c) (hw : c.stage = .granted w) :
    (t.caller? j = some c ∧ ∀ x, d ≠ some (j, x)) ∨
      ∃ n, d = some (j, .counted (.ok n)) ∧ w = workerIdOfCount n := by
  cases h with
  | arrive wish =>
    rw [caller?_arrive] at hc
    split at hc
    next => cases hc; exact absurd hw (Caller.start_ne_granted _ _)
    next => exact .inl ⟨hc, by simp⟩
  | turn i hi hstep =>
    rw [caller?_set hi] at hc
    split at hc
    next heq =>
      cases hc
      obtain ⟨n, rfl, hn⟩ := hstep.granted hw
      exact .inr ⟨n, heq ▸ rfl, hn⟩
    next hne => exact .inl ⟨hc, by simp [hne]⟩
  | leave i hi =>
    rw [caller?_set hi] at hc
    split at hc
    next => cases hc
    next => exact .inl ⟨hc, by simp⟩
  | _ => exact .inl ⟨hc, by simp⟩

/-- The lease held changes by being installed, and not otherwise. -/
theorem Next.lease_eq (h : t.Next W e d t') :
    t'.scene.state.lease = (d.bind (·.2.installed?)).or t.scene.state.lease := by
  cases h with
  | turn i hi hstep => exact hstep.lease_eq
  | leave i hi =>
    simp only
    split <;> rfl
  | _ => rfl

/-- The settings never change. -/
theorem Next.config_eq (h : t.Next W e d t') :
    t'.scene.generator.config = t.scene.generator.config := by
  cases h with
  | turn i hi hstep => exact hstep.config_eq
  | leave i hi =>
    simp only
    split <;> rfl
  | _ => rfl

/-- What is installed is the worker id that the store granted to the caller that acts. -/
theorem Next.installed (h : t.Next W e d t') {i : Nat} {x : Deed} {l : Lease}
    (hd : d = some (i, x)) (hl : x.installed? = some l) :
    ∃ c, t.caller? i = some c ∧ c.stage = .granted l.workerId := by
  cases h with
  | turn i hi hstep =>
    cases hd
    exact ⟨_, hi, hstep.installed hl⟩
  | _ => cases hd

end

theorem config_run (t : Traffic ω) (events : List (Event ω)) :
    (t.run W events).scene.generator.config = t.scene.generator.config := by
  induction events generalizing t with
  | nil => rfl
  | cons e events ih => exact (ih (t.next W e)).trans (t.next_spec W e).config_eq

/-! ## The invariant of a run -/

/-- The state is sound, and a worker id on its way from the store to the state fits its field. -/
structure Sound (t : Traffic ω) (last : Option Uid) : Prop where
  state : t.scene.state.Sound last
  granted : ∀ i c w, t.caller? i = some c → c.stage = .granted w → w ≤ Uid.maxWorkerId

theorem sound_start (config : Config) (world : ω) : (start config world).Sound none where
  state := State.sound_empty
  granted := by
    intro i c w hc
    simp [start, caller?] at hc

end Traffic

/-- A step keeps the state sound, and what it issues is greater than what was issued last. -/
theorem Caller.Step.sound {c c' : Caller} {s s' : Scene ω} {d : Deed} (h : Step W c s d c' s')
    {last : Option Uid} (hs : s.state.Sound last)
    (hc : ∀ w, c.stage = .granted w → w ≤ Uid.maxWorkerId) :
    s'.state.Sound (d.issued?.or last) ∧ ∀ id ∈ d.issued?, ∀ u ∈ last, u < id := by
  cases h with
  | poll =>
    have hp := hs.poll (s.currentPoll W).nowMs (s.seed_currentPoll_le (W := W))
      (s.currentPoll W).random
    simpa [Deed.issued?, Poll.issued?, Poll.answer, Poll.after] using hp
  | install w lease hstage hlease =>
    refine ⟨?_, by simp [Deed.issued?]⟩
    rw [Scene.state_setGate, Scene.state_of_installed hlease]
    exact hs.install (by rw [Scene.workerId_of_installed hlease]; exact hc w hstage)
  | overflow w hstage hlease =>
    refine ⟨?_, by simp [Deed.issued?]⟩
    rw [Scene.state_setGate, Scene.state_of_overflowed hlease]
    exact hs
  | _ => exact ⟨hs, by simp [Deed.issued?]⟩

namespace Traffic

variable {t t' : Traffic ω} {e : Event ω} {d : Option (Nat × Deed)} {last : Option Uid}

/-- An event keeps the invariant, and what it issues is greater than what was issued last. -/
theorem Sound.next (h : t.Sound last) (hnext : t.Next W e d t') :
    t'.Sound ((d.bind (·.2.issued?)).or last) ∧
      ∀ id ∈ d.bind (·.2.issued?), ∀ u ∈ last, u < id := by
  have hgranted : ∀ i c w, t'.caller? i = some c → c.stage = .granted w →
      w ≤ Uid.maxWorkerId := by
    intro j c w hc hw
    rcases hnext.granted hc hw with ⟨hold, -⟩ | ⟨n, -, rfl⟩
    · exact h.granted j c w hold hw
    · exact workerIdOfCount_le n
  cases hnext with
  | turn i hi hstep =>
    obtain ⟨hs, hlt⟩ := hstep.sound h.state fun w => h.granted i _ w hi
    exact ⟨⟨hs, hgranted⟩, hlt⟩
  | leave i hi =>
    refine ⟨⟨?_, hgranted⟩, by simp⟩
    simp only
    split <;> exact h.state
  | _ => exact ⟨⟨h.state, hgranted⟩, by simp⟩

/-- An identifier bears the worker id of the lease held when it was issued. -/
theorem Sound.workerId_issued (h : t.Sound last) (hnext : t.Next W e d t') {id : Uid}
    (hid : d.bind (·.2.issued?) = some id) :
    ∃ l, t.scene.state.lease = some l ∧ id.workerId = l.workerId := by
  cases hnext with
  | turn i hi hstep =>
    cases hstep with
    | poll hstage =>
      obtain ⟨l, hl, hw⟩ := State.Sound.workerId_issuedBy
        (s := (t.scene.currentPoll W).state) (by rw [Scene.state_currentPoll]; exact h.state) hid
      exact ⟨l, by rw [← hl, Scene.state_currentPoll], hw⟩
    | _ => cases hid
  | _ => cases hid

@[simp] theorem issued_nil (t : Traffic ω) : t.issued W [] = [] := rfl

/-- What deeds bring in a run is what the first event brings, followed by the rest. -/
theorem filterMap_history_cons {α : Type} (f : Deed → Option α) (t : Traffic ω) (e : Event ω)
    (events : List (Event ω)) :
    (t.history W (e :: events)).filterMap (fun d => f d.2)
      = ((t.deed? W e).bind fun d => f d.2).toList
        ++ ((t.next W e).history W events).filterMap fun d => f d.2 := by
  rw [history, List.filterMap_append]
  cases t.deed? W e with
  | none => rfl
  | some d => cases hd : f d.2 <;> simp [hd]

theorem issued_cons (t : Traffic ω) (e : Event ω) (events : List (Event ω)) :
    t.issued W (e :: events)
      = ((t.deed? W e).bind (·.2.issued?)).toList ++ (t.next W e).issued W events :=
  filterMap_history_cons Deed.issued? t e events

theorem issued_append (t : Traffic ω) (past rest : List (Event ω)) :
    t.issued W (past ++ rest) = t.issued W past ++ (t.run W past).issued W rest := by
  rw [issued, history_append, List.filterMap_append]
  rfl

/-- From a sound state on, what a run issues ascends and lies above what was issued before. -/
theorem Sound.pairwise_issued (h : t.Sound last) (events : List (Event ω)) :
    (last.toList ++ t.issued W events).Pairwise (· < ·) := by
  induction events generalizing t last with
  | nil => cases last <;> simp
  | cons e events ih =>
    obtain ⟨hs, hlt⟩ := h.next (t.next_spec W e)
    have ih := ih hs
    rw [issued_cons]
    cases hid : (t.deed? W e).bind (·.2.issued?) with
    | none => simpa [hid] using ih
    | some id =>
      simp only [hid, Option.some_or, Option.toList_some, List.singleton_append] at ih hlt ⊢
      cases last with
      | none => simpa using ih
      | some u =>
        -- `u` is below `id`, and `id` is below all that follows.
        have hu : u < id := hlt id rfl u rfl
        refine List.pairwise_cons.2 ⟨?_, ih⟩
        intro v hv
        rcases List.mem_cons.1 hv with rfl | hv
        · exact hu
        · exact UInt64.lt_trans hu (List.rel_of_pairwise_cons ih hv)

/-- From a sound state on, a run stays sound with the last identifier that it issued. -/
theorem Sound.run (h : t.Sound last) (events : List (Event ω)) :
    (t.run W events).Sound ((t.issued W events).getLast?.or last) := by
  induction events generalizing t last with
  | nil => exact h
  | cons e events ih =>
    have ih := ih (h.next (t.next_spec W e)).1
    have hlast : ((t.issued W (e :: events)).getLast?).or last
        = (((t.next W e).issued W events).getLast?).or
            (((t.deed? W e).bind (·.2.issued?)).or last) := by
      rw [issued_cons, List.getLast?_append, Option.or_assoc]
      cases (t.deed? W e).bind (·.2.issued?) <;> rfl
    rw [hlast]
    exact ih

/-- What lies above the last of identifiers that ascend lies above them all. -/
theorem lt_of_getLast? {ids : List Uid} (h : ids.Pairwise (· < ·)) {id : Uid}
    (hid : ∀ u ∈ ids.getLast?, u < id) : ∀ u ∈ ids, u < id := by
  intro u hu
  rcases List.eq_nil_or_concat ids with rfl | ⟨past, v, rfl⟩
  · cases hu
  · have hv : v < id := hid v (by simp)
    simp only [List.concat_eq_append, List.pairwise_append, List.mem_append,
      List.mem_singleton] at h hu
    rcases hu with hu | rfl
    · exact UInt64.lt_trans (h.2.2 u hu v rfl) hv
    · exact hv

/-- Every identifier with which a caller left is among `ids`. -/
def Handed (t : Traffic ω) (ids : List Uid) : Prop :=
  ∀ i c id, t.caller? i = some c → c.result?.bind identifierOf? = some id → id ∈ ids

theorem Handed.next {ids : List Uid} (h : t.Handed ids) (hnext : t.Next W e d t') :
    t'.Handed (ids ++ (d.bind (·.2.issued?)).toList) := by
  intro j c id hc hid
  cases hnext with
  | arrive wish =>
    rw [caller?_arrive] at hc
    split at hc
    next =>
      cases hc
      cases wish <;> cases hid
    next => simpa using h j c id hc hid
  | turn i hi hstep =>
    rw [caller?_set hi] at hc
    split at hc
    next =>
      cases hc
      rw [hstep.identifier_result] at hid
      simp [hid]
    next => exact List.mem_append_left _ (h j c id hc hid)
  | leave i hi =>
    rw [caller?_set hi] at hc
    split at hc
    next => cases hc
    next => simpa using h j c id hc hid
  | _ => simpa using h j c id hc hid

theorem Handed.run {ids : List Uid} (h : t.Handed ids) (events : List (Event ω)) :
    (t.run W events).Handed (ids ++ t.issued W events) := by
  induction events generalizing t ids with
  | nil =>
    rw [issued_nil, List.append_nil]
    exact h
  | cons e events ih =>
    rw [issued_cons, ← List.append_assoc]
    exact ih (h.next (t.next_spec W e))

/-- Whatever the settings, the clock, the random words and the answers of the store are, and in
whichever order callers come, step and leave: every identifier that a generator issues is greater
than all that it issued before, and callers leave with no other identifiers. -/
theorem issued_ascending (W : World ω) (config : Config) (world : ω) (events : List (Event ω)) :
    ((start config world).issued W events).Pairwise (fun u v => u.raw < v.raw) ∧
      ((start config world).run W events).Handed ((start config world).issued W events) := by
  have hhanded : (start config world).Handed [] := by
    intro i c id hc
    simp [start, caller?] at hc
  exact ⟨(sound_start config world).pairwise_issued events, hhanded.run events⟩

end Traffic

end Chronicle.Generator
