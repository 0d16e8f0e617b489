-- SUMMARY: Reading the arguments of the command line and the environment variables behind them.
import Chronicle.CommandLine.Flag

/-!
# Arguments

There are two levels, before the subcommand and behind it, and each is read from left to right. A
flag's value may be attached to it or be the next argument; in the second case it is looked at only
when the next flag comes, or at the end of the level. What is wrong behind the subcommand is
therefore found before what is wrong with the last flag in front of it. A variable is read on every
level that does not give its flag.
-/

namespace Chronicle.CommandLine

/-- The environment, as far as it is set. -/
abbrev Environment := List (String × String)

/-- What has been read of one level. -/
structure Level where
  verb : Option Verb
  /-- The flags given so far. -/
  given : List (Flag × FlagValue) := []
  /-- The last flag, whose value has come or is still to come. -/
  pending : Option (Flag × Option String) := none
  /-- The identifiers given to `inspect`, from the last to the first. -/
  ids : List String := []
  /-- A `--` has been read: what follows is no flag. -/
  trailing : Bool := false

/-- A level that has been read in full. -/
structure Reading where
  verb : Option Verb
  given : List (Flag × FlagValue)
  /-- The values that variables give to the flags that are not given. -/
  fromEnvironment : List (Flag × FlagValue)
  ids : List String

/-! ## Flags -/

namespace Level

/-- Give a flag its value. -/
def give (l : Level) (f : Flag) (value : String) : Except Usage Level :=
  if (l.given.lookup f).isSome then .error .repeatedFlag
  else (f.read value).map fun v => { l with given := (f, v) :: l.given }

/-- Look at the value of the last flag. -/
def settle (l : Level) : Except Usage Level :=
  match l.pending with
  | none => .ok l
  | some (_, none) => .error .badValue
  | some (f, some value) => { l with pending := none }.give f value

/-- The last flag still has no value. -/
def awaitsValue (l : Level) : Bool :=
  match l.pending with
  | some (_, none) => true
  | _ => false

/-- A flag, with the value attached to it. -/
def flag (l : Level) (f : Flag) (attached : Option String) : Except Usage Level := do
  let l ← l.settle
  match attached with
  | some value => l.give f value
  | none => .ok { l with pending := some (f, none) }

/-- Help or the version is asked for, which is answered once the last flag is in order. -/
def ask (l : Level) (u : Usage) : Except Usage Level := do
  let _ ← l.settle
  .error u

/-- An argument that starts with two dashes and goes on. -/
def long (l : Level) (name : String) (attached : Option String) : Except Usage Level :=
  match (Flag.onLevel l.verb).find? (·.longName = name) with
  | some f => l.flag f attached
  | none =>
    if name = "help" ∨ (name = "version" ∧ l.verb = none) then
      if attached.isSome then .error .superfluousValue
      else l.ask (if name = "help" then .helpAsked else .versionAsked)
    else .error .unknownArgument

/-- An argument that starts with one dash: a letter, and a value behind it. -/
def short (l : Level) (letter : Char) (rest : List Char) : Except Usage Level :=
  match (Flag.onLevel l.verb).find? (·.shortName? = some letter) with
  | some f =>
    l.flag f (match rest with
      | [] => none
      | '=' :: value => some (String.ofList value)
      | value => some (String.ofList value))
  | none =>
    if letter = 'h' then l.ask .helpAsked
    else if letter = 'V' ∧ l.verb = none then l.ask .versionAsked
    else .error .unknownArgument

/-- An argument that is no flag and no flag's value. In front of the subcommand it is taken for the
name of one, unless it is a good name that only a `--` keeps from being read. -/
def positional (l : Level) (arg : String) : Except Usage Level :=
  match l.verb with
  | some .inspect => do
    let l ← l.settle
    .ok { l with ids := arg :: l.ids }
  | some _ => .error .unknownArgument
  | none => .error (if l.trailing && isSubcommand arg then .unknownArgument else .unknownSubcommand)

/-- Split a flag from the value attached to it. -/
def splitAttached (cs : List Char) : String × Option String :=
  (String.ofList (cs.takeWhile (· ≠ '=')),
    match cs.dropWhile (· ≠ '=') with
    | [] => none
    | _ :: value => some (String.ofList value))

/-- One argument that is no subcommand. -/
def argument (l : Level) (arg : String) : Except Usage Level :=
  if l.trailing then l.positional arg
  else match arg.toList with
    | ['-', '-'] => .ok { l with trailing := true }
    | '-' :: '-' :: cs =>
      let (name, attached) := splitAttached cs
      l.long name attached
    | '-' :: letter :: rest => l.short letter rest
    | _ =>
      match l.pending with
      | some (f, none) => .ok { l with pending := some (f, some arg) }
      | _ => l.positional arg

/-! ## Levels -/

/-- The value that its variable gives to a flag. -/
def fromVariable (env : Environment) (f : Flag) : Except Usage (Option (Flag × FlagValue)) :=
  match f.environmentName?.bind (List.lookup · env) with
  | none => .ok none
  | some value => (f.read value).map fun v => some (f, v)

/-- The end of a level: the last flag, and the variables of the flags that are not given. -/
def finish (env : Environment) (l : Level) : Except Usage Reading := do
  let l ← l.settle
  let missing := (Flag.onLevel l.verb).filter fun f => (l.given.lookup f).isNone
  let fromEnvironment ← missing.mapM (fromVariable env)
  let reading : Reading := ⟨l.verb, l.given, fromEnvironment.filterMap id, l.ids.reverse⟩
  match l.verb with
  | some .inspect => if reading.ids.isEmpty then .error .missingArgument else .ok reading
  | _ => .ok reading

/-- The level behind a subcommand. -/
def readAll (env : Environment) (l : Level) : List String → Except Usage Reading
  | [] => l.finish env
  | arg :: args => do
    let l ← l.argument arg
    l.readAll env args

end Level

/-- What asking for help comes to: there is help on the tool and on each subcommand, itself
included, and on nothing below them. -/
def helpOn (topics : List String) : Usage :=
  match topics with
  | [] => .helpAsked
  | [topic] => if isSubcommand topic then .helpAsked else .unknownSubcommand
  | _ => .unknownSubcommand

/-- The level in front of the subcommand, and the level behind it. -/
def readFrom (env : Environment) (l : Level) : List String → Except Usage (Reading × Reading)
  | [] => do
    let reading ← l.finish env
    .error (if reading.given.isEmpty && reading.fromEnvironment.isEmpty then .nothingAsked
      else .noSubcommand)
  | arg :: args => do
    if !l.trailing && !l.awaitsValue then
      if arg = "help" then .error (helpOn args)
      else match Verb.ofName? arg with
        | some verb =>
          let inner ← ({ verb := some verb } : Level).readAll env args
          let outer ← l.finish env
          .ok (outer, inner)
        | none =>
          let l ← l.argument arg
          readFrom env l args
    else
      let l ← l.argument arg
      readFrom env l args

/-- Both levels of a command line. -/
def readArguments (env : Environment) (args : List String) :
    Except Usage (Reading × Reading) :=
  readFrom env { verb := none } args

end Chronicle.CommandLine
