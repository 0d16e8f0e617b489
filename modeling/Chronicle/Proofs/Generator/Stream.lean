-- SUMMARY: The identifiers that a generator issues, second by second, with the polls that issue them.
import Chronicle.Proofs.Generator.Traffic

/-!
# The stream of identifiers

The identifiers of a run come in blocks, one for each second in which any is issued. A block begins
at the seed drawn for its first identifier and counts up from there under one worker id. It never
comes back once a later second has been entered, since the second of the last identifier only grows
and a lease under another worker id is fenced off until that second is over.
-/

namespace Chronicle.Generator

variable {ω : Type} {W : World ω}

/-- An identifier issued, with the poll that issues it. -/
structure Issuance where
  poll : Poll
  id : Uid
  deriving DecidableEq

/-! ## One identifier after the other -/

namespace Issuance

/-- The identifier bears the second of the reading, the worker id of `l`, the sequence that the
state moves to and the random part drawn, none of them cut to its width. The lease `l` is the one
held by the state that the poll meets, and it is live in that second. -/
structure Faithful (i : Issuance) (l : Lease) : Prop where
  held : i.poll.state.lease = some l
  live : l.isLive (wholeSecond i.poll.nowMs) = true
  timestamp : i.id.timestamp = wholeSecond i.poll.nowMs
  workerId : i.id.workerId = l.workerId
  sequence : i.id.sequence = i.poll.after.sequence
  random : i.id.random = i.poll.random

/-- The ways in which an identifier follows `last`, the one issued before it. -/
inductive Follows (i : Issuance) (last : Option Uid) : Prop
  /-- The first identifier of a later second begins at the seed. -/
  | newSecond (hlater : ∀ u ∈ last, u.timestamp < i.id.timestamp)
      (hseed : i.id.sequence = i.poll.seed)
  /-- Within a second the sequence counts up, and the worker id stays. -/
  | sameSecond (u : Uid) (hlast : last = some u) (htime : i.id.timestamp = u.timestamp)
      (hworker : i.id.workerId = u.workerId)
      (hsequence : i.id.sequence.toNat = u.sequence.toNat + 1)

end Issuance

/-- From a sound state a poll issues its identifier faithfully, and in one of the ways in which it
can follow the last one. -/
theorem State.Sound.issuance {p : Poll} {last : Option Uid} (h : p.state.Sound last)
    (hseed : p.seed ≤ Uid.maxSequence) (hrandom : p.random ≤ Uid.maxRandom) {id : Uid}
    (hid : p.issued? = some id) :
    (∃ l, (Issuance.mk p id).Faithful l) ∧ (Issuance.mk p id).Follows last := by
  obtain ⟨l, q, hissues⟩ := State.exists_issues hid
  have htime := Uid.timestamp_of_ofFields hissues.fields (canCarry_iff.1 hissues.carried).2
  have hworker := Uid.workerId_of_ofFields hissues.fields (h.workerId_le l hissues.held)
  have hsequence := Uid.sequence_of_ofFields hissues.fields (hissues.sequence_le hseed)
  refine ⟨⟨l, ?faithful⟩, ?follows⟩
  case faithful =>
    exact {
      held := hissues.held
      live := hissues.live
      timestamp := htime
      workerId := hworker
      sequence := by rw [Poll.after, hissues.moved, hsequence]
      random := Uid.random_of_ofFields hissues.fields hrandom }
  case follows =>
    rcases hissues.counted with ⟨hlater, rfl⟩ | ⟨hsame, hleft, rfl⟩
    · refine .newSecond (fun u hu => ?_) hsequence
      rw [h.timestamp_last u hu, htime]
      exact hlater
    · -- the second is not zero, so that an identifier has been issued in it
      have hsome : last ≠ none := fun hnone =>
        (canCarry_iff.1 hissues.carried).1 (hsame.symm.trans (h.timestamp_eq_zero_iff.2 hnone))
      obtain ⟨u, hu⟩ := Option.ne_none_iff_exists'.1 hsome
      refine .sameSecond u hu ?time ?worker ?sequence
      case time => rw [htime, h.timestamp_last u hu, hsame]
      case worker =>
        exact hworker.trans (h.workerId_eq hissues.held (hsame ▸ hissues.unfenced) u hu)
      case sequence =>
        rw [hsequence, toNat_succ_of_lt_maxSequence hleft, h.sequence_last u hu]

/-! ## Streams -/

/-- Identifiers issued one after another, the first of them after `last`. -/
inductive Stream : (last : Option Uid) → List Issuance → Prop
  | nil {last : Option Uid} : Stream last []
  | cons {last : Option Uid} {i : Issuance} {is : List Issuance} (hi : i.Follows last)
      (his : Stream (some i.id) is) : Stream last (i :: is)

namespace Stream

variable {last : Option Uid} {is : List Issuance}

/-- Seconds do not go back. -/
theorem timestamp_le (h : Stream last is) : ∀ u ∈ last, ∀ i ∈ is, u.timestamp ≤ i.id.timestamp := by
  induction h with
  | nil => simp
  | @cons last i is hi his ih =>
    intro u hu j hj
    have hle : u.timestamp ≤ i.id.timestamp := by
      cases hi with
      | newSecond hlater => exact UInt64.le_of_lt (hlater u hu)
      | sameSecond v hlast htime =>
        obtain rfl : v = u := Option.some.inj (hlast.symm.trans hu)
        exact UInt64.le_of_eq htime.symm
    rcases List.mem_cons.1 hj with rfl | hj
    · exact hle
    · exact UInt64.le_trans hle (ih i.id rfl j hj)

/-- The second of an identifier goes on right after it, with the next sequences and under its worker
id. After that come later seconds only. -/
theorem rest_of_second {u : Uid} (h : Stream (some u) is) :
    ∃ same later, is = same ++ later ∧
      (∀ i ∈ same, i.id.timestamp = u.timestamp ∧ i.id.workerId = u.workerId) ∧
      same.map (·.id.sequence.toNat) = List.range' (u.sequence.toNat + 1) same.length ∧
      ∀ i ∈ later, u.timestamp < i.id.timestamp := by
  generalize hlast : some u = last at h
  induction h generalizing u with
  | nil => exact ⟨[], [], by simp⟩
  | @cons last i is hi his ih =>
    subst hlast
    cases hi with
    | newSecond hlater =>
      have hi : u.timestamp < i.id.timestamp := hlater u rfl
      refine ⟨[], i :: is, rfl, by simp, rfl, fun j hj => ?_⟩
      rcases List.mem_cons.1 hj with rfl | hj
      · exact hi
      · exact UInt64.lt_of_lt_of_le hi (his.timestamp_le i.id rfl j hj)
    | sameSecond v hv htime hworker hsequence =>
      cases hv
      obtain ⟨same, later, rfl, hsame, hcount, hlater⟩ := ih rfl
      refine ⟨i :: same, later, rfl, fun j hj => ?fields, ?count, fun j hj => ?later⟩
      case fields =>
        rcases List.mem_cons.1 hj with rfl | hj
        · exact ⟨htime, hworker⟩
        · exact ⟨(hsame j hj).1.trans htime, (hsame j hj).2.trans hworker⟩
      case count =>
        rw [List.map_cons, List.length_cons, List.range'_succ, hcount, hsequence]
      case later => exact htime ▸ hlater j hj

/-- The identifiers of second `t` stand together. They share a worker id, and their sequences count
up from the seed drawn for the first of them. -/
theorem block (h : Stream last is) (t : UInt64) (hlast : ∀ u ∈ last, u.timestamp ≠ t) :
    is.filter (·.id.timestamp = t) <:+: is ∧
      ∀ first rest, is.filter (·.id.timestamp = t) = first :: rest →
        (∀ i ∈ first :: rest, i.id.workerId = first.id.workerId) ∧
        (first :: rest).map (·.id.sequence.toNat)
          = List.range' first.poll.seed.toNat (first :: rest).length := by
  induction h with
  | nil => exact ⟨List.infix_rfl, by simp⟩
  | @cons last i is hi his ih =>
    by_cases ht : i.id.timestamp = t
    · -- the block begins with `i`, as the second is not the one before
      obtain ⟨same, later, rfl, hsame, hcount, hlater⟩ := his.rest_of_second
      have hfilter : (i :: (same ++ later)).filter (·.id.timestamp = t) = i :: same := by
        have hsame : same.filter (·.id.timestamp = t) = same :=
          List.filter_eq_self.2 fun j hj => decide_eq_true ((hsame j hj).1.trans ht)
        have hlater : later.filter (·.id.timestamp = t) = [] :=
          List.filter_eq_nil_iff.2 fun j hj heq =>
            UInt64.ne_of_lt (hlater j hj) (ht.trans (of_decide_eq_true heq).symm)
        rw [List.filter_cons_of_pos (by simpa using ht), List.filter_append, hsame, hlater,
          List.append_nil]
      have hseed : i.id.sequence = i.poll.seed := by
        cases hi with
        | newSecond _ hseed => exact hseed
        | sameSecond u hu htime => exact absurd (htime.symm.trans ht) (hlast u hu)
      rw [hfilter]
      refine ⟨⟨[], later, by simp⟩, fun first rest heq => ?_⟩
      obtain ⟨rfl, rfl⟩ := List.cons.inj heq
      refine ⟨fun j hj => ?_, ?_⟩
      · rcases List.mem_cons.1 hj with rfl | hj
        · rfl
        · exact (hsame j hj).2
      · rw [List.map_cons, List.length_cons, List.range'_succ, hcount, hseed]
    · have hnext : ∀ u ∈ some i.id, u.timestamp ≠ t := by
        rintro u ⟨⟩
        exact ht
      obtain ⟨htogether, hblock⟩ := ih hnext
      rw [List.filter_cons_of_neg (by simpa using ht)]
      exact ⟨htogether.trans (List.suffix_cons i is).isInfix, hblock⟩

end Stream

/-! ## The stream of a run -/

/-- What a deed issues, with the poll that it is. -/
def Deed.issuance? : Deed → Option Issuance
  | .polled p => p.issued?.map (⟨p, ·⟩)
  | _ => none

theorem Deed.issued?_eq (d : Deed) : d.issued? = d.issuance?.map (·.id) := by
  cases d with
  | polled p => simp [issued?, issuance?, Function.comp_def]
  | _ => rfl

namespace Traffic

/-- The identifiers issued in a run in order, each with its poll. -/
def issuances (W : World ω) (t : Traffic ω) (events : List (Event ω)) : List Issuance :=
  (t.history W events).filterMap (·.2.issuance?)

theorem issuances_cons (t : Traffic ω) (e : Event ω) (events : List (Event ω)) :
    t.issuances W (e :: events)
      = ((t.deed? W e).bind (·.2.issuance?)).toList ++ (t.next W e).issuances W events :=
  filterMap_history_cons Deed.issuance? t e events

theorem map_id_issuances (t : Traffic ω) (events : List (Event ω)) :
    (t.issuances W events).map (·.id) = t.issued W events := by
  simp only [issuances, issued, List.map_filterMap, Deed.issued?_eq]

variable {t t' : Traffic ω} {e : Event ω} {d : Option (Nat × Deed)} {last : Option Uid}

/-- What an event issues comes from the poll that is made at its turn. -/
theorem Next.issuance (h : t.Next W e d t') {i : Issuance}
    (hi : d.bind (·.2.issuance?) = some i) :
    ∃ j, e = .turn j ∧ d = some (j, .polled i.poll) ∧ i.poll = t.scene.currentPoll W ∧
      i.poll.issued? = some i.id := by
  cases h with
  | turn j hj hstep =>
    cases hstep with
    | poll =>
      obtain ⟨id, hid, rfl⟩ := Option.map_eq_some_iff.1 hi
      exact ⟨j, rfl, rfl, rfl, hid⟩
    | _ => cases hi
  | _ => cases hi

/-- From a sound state an event issues its identifier faithfully, and in one of the ways in which
it can follow the last one. -/
theorem Sound.issuance (h : t.Sound last) (hnext : t.Next W e d t') {i : Issuance}
    (hi : d.bind (·.2.issuance?) = some i) : (∃ l, i.Faithful l) ∧ i.Follows last := by
  obtain ⟨j, -, -, hpoll, hid⟩ := hnext.issuance hi
  have hstate : i.poll.state.Sound last := by
    rw [hpoll, Scene.state_currentPoll]
    exact h.state
  have hseed : i.poll.seed ≤ Uid.maxSequence := hpoll ▸ t.scene.seed_currentPoll_le
  have hrandom : i.poll.random ≤ Uid.maxRandom := hpoll ▸ t.scene.random_currentPoll_le
  exact hstate.issuance hseed hrandom hid

/-- From a sound state on, a run issues a stream. -/
theorem Sound.stream (h : t.Sound last) (events : List (Event ω)) :
    Stream last (t.issuances W events) := by
  induction events generalizing t last with
  | nil => exact .nil
  | cons e events ih =>
    have hnext := t.next_spec W e
    have ih := ih (h.next hnext).1
    have hissued : (t.deed? W e).bind (·.2.issued?)
        = ((t.deed? W e).bind (·.2.issuance?)).map (·.id) := by
      simp only [Deed.issued?_eq, Option.map_bind, Function.comp_def]
    rw [hissued] at ih
    rw [issuances_cons]
    cases hi : (t.deed? W e).bind (·.2.issuance?) with
    | none => simpa [hi] using ih
    | some i =>
      rw [hi] at ih
      exact .cons (h.issuance hnext hi).2 ih

/-- From a sound state on, each identifier of a run is issued faithfully by the poll that is made at
some turn. -/
theorem Sound.faithful (h : t.Sound last) {events : List (Event ω)} {i : Issuance}
    (hi : i ∈ t.issuances W events) :
    ∃ past j rest, events = past ++ .turn j :: rest ∧
      (t.run W past).deed? W (.turn j) = some (j, .polled i.poll) ∧
      i.poll = (t.run W past).scene.currentPoll W ∧ ∃ l, i.Faithful l := by
  induction events generalizing t last with
  | nil => cases hi
  | cons e events ih =>
    have hnext := t.next_spec W e
    rw [issuances_cons, List.mem_append, Option.mem_toList] at hi
    rcases hi with hi | hi
    · obtain ⟨j, rfl, hdeed, hpoll, -⟩ := hnext.issuance hi
      exact ⟨[], j, events, rfl, hdeed, hpoll, (h.issuance hnext hi).1⟩
    · obtain ⟨past, j, rest, rfl, hdeed, hpoll, hl⟩ := ih (h.next hnext).1 hi
      exact ⟨e :: past, j, rest, rfl, hdeed, hpoll, hl⟩

/-- Whatever the settings, the clock, the random words and the answers of the store are, and in
whichever order callers come, step and leave: each identifier bears the second of the reading at
which it was issued, the worker id of the lease held there, which is live in that second, and a
sequence and a random part that fit their fields. The identifiers of a second stand together in the
order of issue and share one worker id. Their sequences count up without a gap from the seed drawn
for the first of them, which is below the span of the settings, and end before the field is used
up. -/
theorem issued_second_by_second (W : World ω) (config : Config) (world : ω)
    (events : List (Event ω)) :
    let t := start config world
    let stream := t.issuances W events
    stream.map (·.id) = t.issued W events ∧
    (∀ i ∈ stream, ∃ past j rest, events = past ++ .turn j :: rest ∧
      (t.run W past).deed? W (.turn j) = some (j, .polled i.poll) ∧
      i.poll = (t.run W past).scene.currentPoll W ∧ ∃ l, i.Faithful l) ∧
    ∀ second,
      stream.filter (·.id.timestamp = second) <:+: stream ∧
      ∀ first rest, stream.filter (·.id.timestamp = second) = first :: rest →
        (∀ i ∈ first :: rest, i.id.workerId = first.id.workerId) ∧
        (first :: rest).map (·.id.sequence.toNat)
          = List.range' first.poll.seed.toNat (first :: rest).length ∧
        first.poll.seed.toNat < max 1 (min config.seedSpan.toNat 1024) ∧
        first.poll.seed.toNat + (first :: rest).length ≤ 1024 := by
  intro t stream
  have hsound : t.Sound none := sound_start config world
  have hfaithful := fun i (hi : i ∈ stream) => hsound.faithful hi
  refine ⟨map_id_issuances t events, hfaithful, fun second => ?_⟩
  obtain ⟨htogether, hblock⟩ := (hsound.stream events).block second (by simp)
  refine ⟨htogether, fun first rest heq => ?_⟩
  obtain ⟨hworker, hcount⟩ := hblock first rest heq
  refine ⟨hworker, hcount, ?span, ?room⟩
  case span =>
    have hmem : first ∈ stream := (List.mem_filter.1 (heq ▸ List.mem_cons_self)).1
    obtain ⟨past, j, rest, -, -, hpoll, -⟩ := hfaithful first hmem
    have hlt := (t.run W past).scene.toNat_seed_currentPoll_lt (W := W)
    rw [← hpoll, config_run] at hlt
    exact hlt
  case room =>
    -- the last of the sequences is below the number of sequences
    have hlast : first.poll.seed.toNat + rest.length
        ∈ (first :: rest).map (·.id.sequence.toNat) := by
      rw [hcount, List.mem_range'_1, List.length_cons]
      omega
    obtain ⟨i, -, hi⟩ := List.mem_map.1 hlast
    have hseq := Uid.toNat_sequence i.id
    rw [List.length_cons]
    omega

/-- The seed leaves room for two identifiers in second 5. The polls after them get none, also when
the clock reads an earlier second. The lease lasts through second 6, and the next one is under
another worker id. -/
theorem issued_second_by_second_renewed :
    let W : World (UInt64 × UInt64) :=
      ⟨fun w => w.1, fun w => (1022, w), fun w => (.ok (w.2 + 1), w.1, w.2 + 1), fun _ w => w⟩
    let config : Config :=
      { leaseTtl := .ofSeconds 2, leaseJitter := .ofSeconds 0, seedSpan := 65535 }
    let events : List (Event (UInt64 × UInt64)) :=
      .arrive .identifier :: List.replicate 5 (.turn 0)
        ++ List.replicate 4 (.arrive .status) ++ [.turn 1, .turn 2, .drift (4500, 1), .turn 3,
          .drift (6000, 1), .turn 4, .drift (7500, 1), .arrive .identifier]
        ++ List.replicate 5 (.turn 5)
    let stream := (start config (5000, 0)).issuances W events
    stream.map (fun i => (i.id.timestamp, i.id.workerId))
        = [(5, 1), (5, 1), (6, 1), (7, 2)] ∧
      (stream.filter (·.id.timestamp = 5)).map (·.id.sequence.toNat) = List.range' 1022 2 := by
  intro W config events stream
  obtain ⟨-, -, hseconds⟩ := issued_second_by_second W config (5000, 0) events
  have hseeds : (stream.filter (·.id.timestamp = 5)).map (·.poll.seed.toNat) = [1022, 1022] := by
    decide +kernel
  refine ⟨by decide +kernel, ?_⟩
  cases hblock : stream.filter (·.id.timestamp = 5) with
  | nil =>
    rw [hblock] at hseeds
    cases hseeds
  | cons first rest =>
    rw [hblock, List.map_cons, List.cons.injEq] at hseeds
    obtain ⟨-, hcount, -, -⟩ := (hseconds 5).2 first rest hblock
    have hlength : rest.length = 1 := by simpa using congrArg List.length hseeds.2
    rw [hcount, hseeds.1, List.length_cons, hlength]

end Traffic

end Chronicle.Generator
