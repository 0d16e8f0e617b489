-- SUMMARY: Inspection of identifiers: a block of lines for each, up to the first input that is none.
import Chronicle.Uid.Parse

namespace Chronicle.CommandLine

/-- An input and the identifier that it is. -/
structure Inspected where
  input : String
  uid : Uid
  deriving DecidableEq

/-- The input, both forms and every field. -/
def Inspected.lines (i : Inspected) : List String :=
  [ i.input,
    "  display:    " ++ i.uid.toDisplay,
    "  storage:    " ++ toString i.uid.raw,
    "  timestamp:  " ++ toString i.uid.timestamp ++ " (unix " ++ toString i.uid.createdUnix ++ ")",
    "  worker_id:  " ++ toString i.uid.workerId,
    "  sequence:   " ++ toString i.uid.sequence,
    "  random:     " ++ toString i.uid.random ]

/-- The inputs inspected, and the first that is refused. -/
structure Inspection where
  blocks : List Inspected
  refused : Option (String × Fault)

/-- Inspect inputs in order, until one is refused. -/
def inspect : List String → Inspection
  | [] => ⟨[], none⟩
  | input :: inputs =>
    match Uid.ofText input with
    | .error f => ⟨[], some (input, f)⟩
    | .ok uid =>
      let rest := inspect inputs
      { rest with blocks := ⟨input, uid⟩ :: rest.blocks }

/-- What is written: every line with its end. -/
def Inspection.output (i : Inspection) : String :=
  String.join ((i.blocks.flatMap Inspected.lines).map (· ++ "\n"))

/-- The chain of messages for the input that is refused. -/
def Inspection.failure? (i : Inspection) : Option (List String) :=
  i.refused.map fun (input, f) => ["cannot inspect " ++ Text.quoted input, f.message]

end Chronicle.CommandLine
