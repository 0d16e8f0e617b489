-- SUMMARY: A world played from a script: a clock that moves only when told to, given words, given answers.
import Chronicle.Generator.World
import Chronicle.Worker.Cohort

/-!
# Scripted worlds

Nothing in a scripted world is left to chance: the clock moves in sleeps and in calls to a scripted
store, random words come from a list that is read over and over, and the store is a counter, a
cohort of a database, or a list of answers of which the last one is repeated.
-/

namespace Chronicle.Generator

/-- Where the counts of leases come from. -/
inductive Script.Source where
  | counter (c : Counter)
  | cohort (c : Cohort) (db : Database)
  /-- The answers in order; each call first moves the clock by `advanceMs`. -/
  | answers (answers : Array (Except Fault UInt64)) (advanceMs : UInt64) (calls : Nat)

/-- How far a sleep moves the clock. -/
inductive Script.Sleep where
  /-- By all of its span and some more. -/
  | advance (extraMs : UInt64)
  /-- By its span, but no further than this. -/
  | atMost (ms : UInt64)
  /-- Not at all. -/
  | still

structure Script where
  nowMs : UInt64
  words : Array UInt64
  source : Script.Source
  sleep : Script.Sleep := .advance 0
  /-- Number of words drawn. -/
  drawn : Nat := 0
  /-- The sleeps, the last one first. -/
  slept : List Duration := []

namespace Script

def nextWord (w : Script) : UInt64 × Script :=
  (w.words.getD (w.drawn % w.words.size) 0, { w with drawn := w.drawn + 1 })

/-- The answer of a scripted store to the call of this number. -/
def answerAt (answers : Array (Except Fault UInt64)) (call : Nat) : Except Fault UInt64 :=
  match answers[call]?.or answers.back? with
  | some answer => answer
  | none => .error (.internal (.other "no answer is scripted"))

def countLease (w : Script) : Except Fault UInt64 × Script :=
  match w.source with
  | .counter c =>
    let (n, c) := c.increment
    (.ok n, { w with source := .counter c })
  | .cohort c db =>
    let (n, db) := c.increment db
    (.ok n, { w with source := .cohort c db })
  | .answers answers advanceMs calls =>
    (answerAt answers calls,
      { w with
        nowMs := Word.saturatingAdd w.nowMs advanceMs
        source := .answers answers advanceMs (calls + 1) })

/-- The count as the store shows it; a list of answers shows the number of calls. -/
def leaseCount (w : Script) : UInt64 :=
  match w.source with
  | .counter c => c.count
  | .cohort c db => c.count db
  | .answers _ _ calls => UInt64.ofNat calls

/-- The reading after a sleep. -/
def wake (w : Script) (d : Duration) : UInt64 :=
  match w.sleep with
  | .advance extraMs => Word.clamp (w.nowMs.toNat + d.toMillis + extraMs.toNat)
  | .atMost ms => Word.clamp (w.nowMs.toNat + (if d.toMillis ≤ ms.toNat then d.toMillis else ms.toNat))
  | .still => w.nowMs

def sleepFor (d : Duration) (w : Script) : Script :=
  { w with nowMs := w.wake d, slept := d :: w.slept }

/-- The operations of a scripted world. -/
def world : World Script where
  nowMs w := w.nowMs
  draw := nextWord
  countLease := countLease
  sleep := sleepFor

end Script

end Chronicle.Generator
