-- SUMMARY: The flags of the command line: their names, their variables, and how their values are read.
import Chronicle.Text.Decimal

/-!
# Flags

The settings of the database, the lease and the log are flags of the whole tool: they may stand
before or behind the subcommand, and each has an environment variable. `generate` and `token` have
one flag of their own, which also has a short name.
-/

namespace Chronicle.CommandLine

/-- Why the arguments are not run. -/
inductive Usage where
  /-- Nothing was asked for at all. -/
  | nothingAsked
  | helpAsked
  | versionAsked
  | unknownSubcommand
  | noSubcommand
  /-- `inspect` without an identifier. -/
  | missingArgument
  | unknownArgument
  /-- A flag without a value, or with one that is none of its choices. -/
  | badValue
  /-- A value that cannot be read as a number in range. -/
  | badNumber
  /-- A flag given twice on one level. -/
  | repeatedFlag
  /-- A value for a flag that takes none. -/
  | superfluousValue
  deriving DecidableEq

/-- The name of the kind of error. -/
def Usage.kind : Usage → String
  | .nothingAsked => "DisplayHelpOnMissingArgumentOrSubcommand"
  | .helpAsked => "DisplayHelp"
  | .versionAsked => "DisplayVersion"
  | .unknownSubcommand => "InvalidSubcommand"
  | .noSubcommand => "MissingSubcommand"
  | .missingArgument => "MissingRequiredArgument"
  | .unknownArgument => "UnknownArgument"
  | .badValue => "InvalidValue"
  | .badNumber => "ValueValidation"
  | .repeatedFlag => "ArgumentConflict"
  | .superfluousValue => "TooManyValues"

inductive LogFormat where
  | text
  | json
  deriving DecidableEq

def LogFormat.name : LogFormat → String
  | .text => "text"
  | .json => "json"

/-- A subcommand. -/
inductive Verb where
  | inspect
  | generate
  | token
  deriving DecidableEq

def Verb.ofName? : String → Option Verb
  | "inspect" => some .inspect
  | "generate" => some .generate
  | "token" => some .token
  | _ => none

/-- The name of a subcommand, or of the help on them. -/
def isSubcommand (name : String) : Bool :=
  (Verb.ofName? name).isSome || name = "help"

inductive Flag where
  | dbPath
  | cohort
  | leaseTtl
  | leaseJitter
  | seedSpan
  | leaseAttempts
  | logFormat
  | count
  | len
  deriving DecidableEq

/-- The value of a flag. -/
inductive FlagValue where
  | text (s : String)
  | number (n : Nat)
  | format (f : LogFormat)
  deriving DecidableEq

namespace Flag

/-- The flags of the whole tool, in the order in which their variables are looked at. -/
def shared : List Flag :=
  [.dbPath, .cohort, .leaseTtl, .leaseJitter, .seedSpan, .leaseAttempts, .logFormat]

/-- The flags that may stand before the subcommand, or behind it. -/
def onLevel : Option Verb → List Flag
  | some .generate => .count :: shared
  | some .token => .len :: shared
  | _ => shared

def longName : Flag → String
  | .dbPath => "db-path"
  | .cohort => "cohort"
  | .leaseTtl => "lease-ttl-secs"
  | .leaseJitter => "lease-jitter-secs"
  | .seedSpan => "sequence-seed-span"
  | .leaseAttempts => "lease-attempts"
  | .logFormat => "log-format"
  | .count => "count"
  | .len => "len"

def shortName? : Flag → Option Char
  | .count => some 'n'
  | .len => some 'l'
  | _ => none

/-- The environment variable that stands in for the flag. -/
def environmentName? : Flag → Option String
  | .dbPath => some "UEXKY_DB_PATH"
  | .cohort => some "UEXKY_WORKER_COHORT"
  | .leaseTtl => some "UEXKY_LEASE_TTL_SECS"
  | .leaseJitter => some "UEXKY_LEASE_JITTER_SECS"
  | .seedSpan => some "UEXKY_SEQUENCE_SEED_SPAN"
  | .leaseAttempts => some "UEXKY_LEASE_ATTEMPTS"
  | .logFormat => some "LOG_FORMAT"
  | .count | .len => none

/-- A number of 64 bits, after a plus sign or without one. -/
def word64 (s : String) : Except Usage FlagValue :=
  match Text.Decimal.unsigned? s.toList with
  | some n => if n < UInt64.size then .ok (.number n) else .error .badNumber
  | none => .error .badNumber

/-- A number from zero up to and without `bound`. It may have either sign, so `-0` is zero. -/
def below (bound : Nat) (s : String) : Except Usage FlagValue :=
  match Text.Decimal.signed? s.toList with
  | some n => if 0 ≤ n ∧ n < bound then .ok (.number n.toNat) else .error .badNumber
  | none => .error .badNumber

/-- Read a value, from the command line or from the variable. -/
def read (f : Flag) (s : String) : Except Usage FlagValue :=
  match f with
  | .dbPath => if s = "" then .error .badValue else .ok (.text s)
  | .cohort => .ok (.text s)
  | .leaseTtl | .leaseJitter | .count | .len => word64 s
  | .seedSpan => below UInt16.size s
  | .leaseAttempts => below UInt32.size s
  | .logFormat =>
    match s with
    | "text" => .ok (.format .text)
    | "json" => .ok (.format .json)
    | _ => .error .badValue

end Flag

end Chronicle.CommandLine
