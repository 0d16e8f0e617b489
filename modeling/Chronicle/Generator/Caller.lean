-- SUMMARY: The callers of a generator and the steps that each of them takes.
import Chronicle.Generator.Config
import Chronicle.Generator.State
import Chronicle.Generator.World

/-!
# Callers

A caller wants the outcome of one poll, an identifier, or a live lease, and gets there in steps.
Any number of callers may be on their way at once and step in any order; what they share is the
state, the world, and a gate that one of them at a time can hold. A caller holds the gate from the
moment it finds no live lease until it has installed one, has given up or breaks off, so that
callers who meet an expired lease cause one round trip to the store. A step is atomic, and each of
them reads the clock at most once.
-/

namespace Chronicle

/-- A generator: its settings, its state, and whether some caller holds its gate. -/
structure Generator where
  config : Generator.Config
  state : Generator.State := {}
  gateHeld : Bool := false

namespace Generator

/-- What a caller came for. -/
inductive Wish where
  | status
  | identifier
  | lease
  deriving DecidableEq

/-- What a caller is given. -/
inductive Answer where
  | status (s : Status)
  | identifier (id : Uid)
  | lease (l : Lease)
  deriving DecidableEq

/-- How a caller leaves. -/
inductive Result where
  | ok (a : Answer)
  | error (f : Fault)
  /-- The length of its lease was no word, and it broke off. -/
  | overflowed
  deriving DecidableEq

/-- How far a caller has come. -/
inductive Stage where
  /-- About to poll. -/
  | polling
  /-- At the gate, which may be held by another caller. -/
  | atGate
  /-- Holding the gate, with the store at work on the attempt of this number. -/
  | counting (attempt : Nat)
  /-- Holding the gate, asleep after the attempt of this number failed. -/
  | retrying (attempt : Nat)
  /-- Holding the gate and a worker id, with no lease installed yet. -/
  | granted (workerId : UInt16)
  /-- Asleep until an identifier can be issued. -/
  | waiting (wait : Duration)
  | done (result : Result)
  deriving DecidableEq

structure Caller where
  wish : Wish
  stage : Stage
  deriving DecidableEq

/-- A generator and the world around it. -/
structure Scene (ω : Type) where
  generator : Generator
  world : ω

/-! ## The parts of a step -/

namespace Scene

variable {ω : Type}

def state (s : Scene ω) : State :=
  s.generator.state

def setState (s : Scene ω) (state : State) : Scene ω :=
  { s with generator.state := state }

def setGate (s : Scene ω) (held : Bool) : Scene ω :=
  { s with generator.gateHeld := held }

@[simp] theorem state_setGate (s : Scene ω) (held : Bool) : (s.setGate held).state = s.state :=
  rfl

/-- Draw a number below `bound`. -/
def drawBelow (W : World ω) (bound : UInt64) (s : Scene ω) : UInt64 × Scene ω :=
  let (n, w) := W.drawBelow bound s.world
  (n, { s with world := w })

/-- Poll at the present reading. A reading that can be carried costs two draws, the seed and the
random part, whatever the outcome; any other reading costs none. -/
def poll (W : World ω) (s : Scene ω) : Except Fault Status × Scene ω :=
  let nowMs := W.nowMs s.world
  if State.canCarry (wholeSecond nowMs) then
    let (seed, s) := s.drawBelow W s.generator.config.seedBound
    let (random, s) := s.drawBelow W 512
    let (status, state) := s.state.poll nowMs seed.toUInt16 random.toUInt16
    (status, s.setState state)
  else ((s.state.poll nowMs 0 0).1, s)

/-- Draw the length of a new lease: the time to live, extended by a random jitter. There is none if
it is no word, or if the bound of the draw is none. -/
def drawLength (W : World ω) (s : Scene ω) : Option UInt64 × Scene ω :=
  match s.generator.config.jitterBound? with
  | none => (none, s)
  | some bound =>
    let (jitter, s) := s.drawBelow W bound
    (Word.add? s.generator.config.ttlSeconds jitter, s)

/-- Install a lease that starts at the present second, if a length for it can be drawn. -/
def install (W : World ω) (workerId : UInt16) (s : Scene ω) : Option Lease × Scene ω :=
  let now := wholeSecond (W.nowMs s.world)
  match s.drawLength W with
  | (none, s) => (none, s)
  | (some length, s) =>
    let lease := Lease.grant workerId now length
    (some lease, s.setState (s.state.install lease))

end Scene

/-! ## Steps -/

namespace Caller

variable {ω : Type}

/-- A caller at its first step. -/
def start (wish : Wish) : Caller :=
  ⟨wish, match wish with
    | .lease => .atGate
    | _ => .polling⟩

def isDone (c : Caller) : Bool :=
  match c.stage with
  | .done _ => true
  | _ => false

/-- The store is at work for the caller. -/
def isCounting (c : Caller) : Bool :=
  match c.stage with
  | .counting _ => true
  | _ => false

/-- The result, once there is one. -/
def result? (c : Caller) : Option Result :=
  match c.stage with
  | .done r => some r
  | _ => none

/-- Where a caller goes with the outcome of a poll. -/
def afterPoll (wish : Wish) (status : Except Fault Status) : Stage :=
  match wish, status with
  | _, .error f => .done (.error f)
  | .status, .ok s => .done (.ok (.status s))
  | _, .ok (.ready id) => .done (.ok (.identifier id))
  | _, .ok (.pending wait) => .waiting wait
  | _, .ok .leaseRequired => .atGate

/-- Where a caller goes with a live lease. -/
def afterLease (wish : Wish) (lease : Lease) : Stage :=
  match wish with
  | .lease => .done (.ok (.lease lease))
  | _ => .polling

/-- One step, if the caller is not done and need not wait for the gate. -/
def step (W : World ω) (c : Caller) (s : Scene ω) : Option (Caller × Scene ω) :=
  match c.stage with
  | .polling =>
    let (status, s) := s.poll W
    some ({ c with stage := afterPoll c.wish status }, s)
  | .atGate =>
    if s.generator.gateHeld then none
    else match s.state.liveLease? (wholeSecond (W.nowMs s.world)) with
      | some lease => some ({ c with stage := afterLease c.wish lease }, s)
      | none => some ({ c with stage := .counting 1 }, s.setGate true)
  | .counting attempt =>
    let (answer, w) := W.countLease s.world
    let s := { s with world := w }
    match answer with
    | .ok count => some ({ c with stage := .granted (workerIdOfCount count) }, s)
    | .error f =>
      if attempt < s.generator.config.attempts then
        some ({ c with stage := .retrying attempt }, s)
      else
        some ({ c with stage := .done (.error (.leaseUnavailable attempt f.message)) },
          s.setGate false)
  | .retrying attempt =>
    some ({ c with stage := .counting (attempt + 1) },
      { s with world := W.sleep s.generator.config.retryDelay s.world })
  | .granted workerId =>
    match s.install W workerId with
    | (some lease, s) => some ({ c with stage := afterLease c.wish lease }, s.setGate false)
    | (none, s) => some ({ c with stage := .done .overflowed }, s.setGate false)
  | .waiting wait =>
    some ({ c with stage := .polling }, { s with world := W.sleep wait s.world })
  | .done _ => none

end Caller

end Generator

end Chronicle
