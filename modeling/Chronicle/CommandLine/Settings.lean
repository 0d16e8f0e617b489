-- SUMMARY: The settings of one run: flags, variables and defaults together, and what is checked of them.
import Chronicle.CommandLine.Arguments
import Chronicle.Generator.Config
import Chronicle.Text.Blank

/-!
# Settings

A flag behind the subcommand wins over one in front of it, a flag over its variable, and a variable
over the default. The checks are made in a fixed order, and the first that fails is reported under
the name of the variable.
-/

namespace Chronicle.CommandLine

/-- What the tool is to do. -/
inductive Command where
  | inspect (ids : List String)
  | generate (count : Nat)
  | token (len : Nat)
  deriving DecidableEq

/-- The settings as they are given. -/
structure Choices where
  dbPath : String
  cohort : String
  leaseTtl : UInt64
  leaseJitter : UInt64
  seedSpan : UInt16
  leaseAttempts : UInt32
  logFormat : LogFormat
  command : Command
  deriving DecidableEq

/-- The settings once they are checked. -/
structure Settings where
  dbPath : String
  cohort : String
  generator : Generator.Config
  logFormat : LogFormat
  command : Command
  deriving DecidableEq

/-- A setting that is refused. -/
inductive BadSetting where
  | leaseTtl
  | leaseAttempts
  | seedSpan
  | cohort
  | count
  | len
  deriving DecidableEq

def BadSetting.message : BadSetting → String
  | .leaseTtl => "UEXKY_LEASE_TTL_SECS must be greater than 0"
  | .leaseAttempts => "UEXKY_LEASE_ATTEMPTS must be greater than 0"
  | .seedSpan => "UEXKY_SEQUENCE_SEED_SPAN must be at most 1024"
  | .cohort => "UEXKY_WORKER_COHORT must not be empty"
  | .count => "--count must be greater than 0"
  | .len => "--len must be greater than 0"

/-! ## Choices -/

/-- The value of a flag, from wherever it is given first. -/
def valueOf (outer inner : Reading) (f : Flag) : Option FlagValue :=
  (inner.given.lookup f) <|> (outer.given.lookup f) <|> (inner.fromEnvironment.lookup f)
    <|> (outer.fromEnvironment.lookup f)

def textOr (default : String) : Option FlagValue → String
  | some (.text s) => s
  | _ => default

def numberOr (default : Nat) : Option FlagValue → Nat
  | some (.number n) => n
  | _ => default

def formatOr (default : LogFormat) : Option FlagValue → LogFormat
  | some (.format f) => f
  | _ => default

/-- The settings that two levels of arguments give. -/
def Choices.ofReadings (outer inner : Reading) : Choices :=
  let value := valueOf outer inner
  { dbPath := textOr "./uexky-data" (value .dbPath)
    cohort := textOr "uid" (value .cohort)
    leaseTtl := UInt64.ofNat (numberOr 3600 (value .leaseTtl))
    leaseJitter := UInt64.ofNat (numberOr 3600 (value .leaseJitter))
    seedSpan := UInt16.ofNat (numberOr 64 (value .seedSpan))
    leaseAttempts := UInt32.ofNat (numberOr 3 (value .leaseAttempts))
    logFormat := formatOr .text (value .logFormat)
    command :=
      match inner.verb with
      | some .generate => .generate (numberOr 1 (value .count))
      | some .token => .token (numberOr 24 (value .len))
      | _ => .inspect inner.ids }

/-! ## Checks -/

/-- Check the settings, in the order of the messages. -/
def Choices.check (c : Choices) : Except BadSetting Settings :=
  if c.leaseTtl = 0 then .error .leaseTtl
  else if c.leaseAttempts = 0 then .error .leaseAttempts
  else if 1024 < c.seedSpan then .error .seedSpan
  else if Text.trim c.cohort = "" then .error .cohort
  else match c.command with
    | .generate 0 => .error .count
    | .token 0 => .error .len
    | command =>
      .ok
        { dbPath := c.dbPath
          cohort := c.cohort
          generator :=
            { leaseTtl := .ofSeconds c.leaseTtl
              leaseJitter := .ofSeconds c.leaseJitter
              acquireAttempts := c.leaseAttempts
              seedSpan := c.seedSpan }
          logFormat := c.logFormat
          command }

/-- Why a command line gives no settings. -/
inductive Rejection where
  | usage (u : Usage)
  | setting (b : BadSetting)
  deriving DecidableEq

/-- The settings of a command line. -/
def settings (env : Environment) (args : List String) : Except Rejection Settings :=
  match readArguments env args with
  | .error u => .error (.usage u)
  | .ok (outer, inner) => (Choices.ofReadings outer inner).check.mapError .setting

end Chronicle.CommandLine
