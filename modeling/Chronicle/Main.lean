-- SUMMARY: The command line tool: arguments, environment, clock, randomness and the database on disk.
import Chronicle.CommandLine.Generate
import Chronicle.CommandLine.Inspect
import Chronicle.CommandLine.Settings
import Chronicle.Store.Dump
import Chronicle.Worker.Cohort

/-!
# The command line tool

Everything that touches the outside is here. A caller of the generator takes its steps one by one;
before each of them the world is looked at again, and a sleep that a step stands for is slept.
-/

namespace Chronicle.Tool

/-- The environment variables that stand in for flags. -/
def environment : IO CommandLine.Environment := do
  let pairs ← (CommandLine.Flag.shared.filterMap (·.environmentName?)).mapM fun name => do
    return (← IO.getEnv name).map fun value => (name, value)
  return pairs.filterMap id

/-- Unix time in milliseconds, as the file system stamps it on a file just made. -/
def unixMs : IO Nat := do
  let (_, path) ← IO.FS.createTempFile
  let modified := (← path.metadata).modified
  IO.FS.removeFile path
  return modified.sec.toNat * 1000 + modified.nsec.toNat / 1000000

def randomWord : IO UInt64 := do
  let bytes ← IO.getRandomBytes 8
  return UInt64.ofNat (Bytes.value bytes.data.toList)

def randomWords : (count : Nat) → IO (List UInt64)
  | 0 => return []
  | count + 1 => return (← randomWord) :: (← randomWords count)

/-! ## The database -/

def databaseFile (dir : String) : String :=
  dir ++ "/entries"

/-- The database of a directory; one that is not there yet is empty. -/
def openDatabase (dir : String) : IO Database := do
  IO.FS.createDirAll dir
  let lines ← try (IO.FS.lines (databaseFile dir)) catch _ => pure #[]
  match Database.ofDump? lines.toList with
  | some db => return db
  | none => throw (IO.userError ("cannot open lease store at " ++ dir))

def saveDatabase (dir : String) (db : Database) : IO Unit :=
  IO.FS.writeFile (databaseFile dir) (String.join (db.dump.map (· ++ "\n")))

/-! ## The generator -/

/-- The world as it was last looked at. -/
structure Glimpse where
  nowMs : UInt64
  words : List UInt64
  cohort : Cohort
  db : Database

/-- A step draws at most two words, and the sleeps are left to whoever takes the steps. -/
def glimpses : Generator.World Glimpse where
  nowMs w := w.nowMs
  draw w := (w.words.headD 0, { w with words := w.words.tail })
  countLease w :=
    let (count, db) := w.cohort.increment w.db
    (.ok count, { w with db })
  sleep _ w := w

/-- Sleep, if the caller's next step is a sleep. -/
def sleepBefore (config : Generator.Config) (c : Generator.Caller) : IO Unit :=
  match c.stage with
  | .waiting wait => IO.sleep wait.toMillis.toUInt32
  | .retrying _ => IO.sleep config.retryDelay.toMillis.toUInt32
  | _ => return

/-- Take the steps of a caller until it is done. The database is saved after each lease. -/
partial def settle (dir : String) (now : IO UInt64) (c : Generator.Caller)
    (s : Generator.Scene Glimpse) :
    IO (Option Generator.Result × Generator.Scene Glimpse) := do
  sleepBefore s.generator.config c
  let world := { s.world with nowMs := ← now, words := ← randomWords 2 }
  match c.step glimpses { s with world } with
  | none => return (c.result?, s)
  | some (next, s) =>
    if c.isCounting then saveDatabase dir s.world.db
    settle dir now next s

/-- Say why a caller left without what it came for, and give the exit code. -/
def reportFailure : Option Generator.Result → IO UInt32
  | some (.error f) => do
    IO.eprintln ("Error: " ++ f.message)
    return 1
  | some .overflowed => do
    IO.eprintln "attempt to add with overflow"
    return 101
  | _ => return 1

/-- Print the next identifiers. -/
def printIdentifiers (dir : String) (now : IO UInt64) :
    (count : Nat) → Generator.Scene Glimpse → IO UInt32
  | 0, _ => return 0
  | count + 1, s => do
    match ← settle dir now (.start .identifier) s with
    | (some (.ok (.identifier u)), s) =>
      IO.println (CommandLine.generatedLine u)
      printIdentifiers dir now count s
    | (result, _) => reportFailure result

def generate (settings : CommandLine.Settings) (count : Nat) : IO UInt32 := do
  let db ← openDatabase settings.dbPath
  match Cohort.ofName settings.cohort with
  | .error f =>
    IO.eprintln ("Error: " ++ f.message)
    return 1
  | .ok cohort =>
    let clock := MonotonicClock.since (Uid.epoch * 1000) (← unixMs)
    let start ← IO.monoMsNow
    let now : IO UInt64 := do
      return clock.reading (UInt64.ofNat ((← IO.monoMsNow) - start))
    let scene : Generator.Scene Glimpse :=
      ⟨{ config := settings.generator }, { nowMs := ← now, words := [], cohort, db }⟩
    match ← settle settings.dbPath now (.start .lease) scene with
    | (some (.ok _), scene) => printIdentifiers settings.dbPath now count scene
    | (result, _) => reportFailure result

/-! ## The tool -/

def inspect (ids : List String) : IO UInt32 := do
  let inspection := CommandLine.inspect ids
  IO.print inspection.output
  match inspection.failure? with
  | none => return 0
  | some chain =>
    IO.eprintln ("Error: " ++ ": ".intercalate chain)
    return 1

def run (settings : CommandLine.Settings) : IO UInt32 := do
  match settings.command with
  | .inspect ids => inspect ids
  | .generate count => generate settings count
  | .token len =>
    IO.println (Draw.token (← randomWords len))
    return 0

end Chronicle.Tool

def main (args : List String) : IO UInt32 := do
  match Chronicle.CommandLine.settings (← Chronicle.Tool.environment) args with
  | .ok settings => Chronicle.Tool.run settings
  | .error (.setting b) =>
    IO.eprintln ("Error: " ++ b.message)
    return 1
  | .error (.usage u) =>
    IO.eprintln ("usage: inspect ID... | generate [-n COUNT] | token [-l LEN] (" ++ u.kind ++ ")")
    return if u = .helpAsked ∨ u = .versionAsked then 0 else 2
