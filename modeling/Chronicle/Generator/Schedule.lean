-- SUMMARY: Schedules: a caller runs until it has to wait, and callers take turns in order.
import Chronicle.Generator.Caller

/-!
# Schedules

A turn of a caller lasts until it is done, has to wait for the gate, or has to wait for a store that
does not answer at once. Callers on one thread take turns in a fixed order, round after round. The
number of steps is bounded from outside, since a world may never let a caller finish.
-/

namespace Chronicle.Generator

variable {ω : Type}

/-- A turn of at most `steps` steps. With `suspends`, the store answers no earlier than in the next
turn. -/
def Caller.turn (W : World ω) (suspends : Bool) : (steps : Nat) → Caller → Scene ω → Caller × Scene ω
  | 0, c, s => (c, s)
  | steps + 1, c, s =>
    match c.step W s with
    | none => (c, s)
    | some (c, s) => if suspends && c.isCounting then (c, s) else turn W suspends steps c s

/-- One turn for each caller, in order. -/
def round (W : World ω) (suspends : Bool) (steps : Nat) :
    List Caller → Scene ω → List Caller × Scene ω
  | [], s => ([], s)
  | c :: cs, s =>
    let (c, s) := c.turn W suspends steps s
    let (cs, s) := round W suspends steps cs s
    (c :: cs, s)

/-- Rounds until all callers are done, at most `steps` of them. -/
def runAll (W : World ω) (suspends : Bool) (steps : Nat) (cs : List Caller) (s : Scene ω) :
    List Caller × Scene ω :=
  go steps cs s
where
  go : Nat → List Caller → Scene ω → List Caller × Scene ω
    | 0, cs, s => (cs, s)
    | rounds + 1, cs, s =>
      if cs.all Caller.isDone then (cs, s)
      else
        let (cs, s) := round W suspends steps cs s
        go rounds cs s

/-- One caller alone, with nobody to wait for. Gives the result, if it came within `steps`
steps. -/
def runAlone (W : World ω) (steps : Nat) (wish : Wish) (s : Scene ω) :
    Option Result × Scene ω :=
  let (c, s) := (Caller.start wish).turn W false steps s
  (c.result?, s)

/-- The identifier that an answer brings. -/
def Answer.identifier? : Answer → Option Uid
  | .status (.ready id) => some id
  | .identifier id => some id
  | _ => none

/-- The identifier that a result brings. -/
def identifierOf? : Result → Option Uid
  | .ok a => a.identifier?
  | _ => none

/-- Identifiers taken one after another. -/
structure Taken where
  ids : List Uid
  /-- What came in place of the next identifier, unless as many as asked for were taken. -/
  stopped : Option Result

/-- One caller after another, each alone, until `count` identifiers are taken or one caller leaves
without any. -/
def takeMany (W : World ω) (steps : Nat) (wish : Wish) :
    (count : Nat) → Scene ω → Taken × Scene ω
  | 0, s => (⟨[], none⟩, s)
  | count + 1, s =>
    let (result, s) := runAlone W steps wish s
    match result.bind identifierOf? with
    | some id =>
      let (rest, s) := takeMany W steps wish count s
      ({ rest with ids := id :: rest.ids }, s)
    | none => (⟨[], result⟩, s)

end Chronicle.Generator
