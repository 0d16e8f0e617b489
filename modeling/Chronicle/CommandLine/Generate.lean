-- SUMMARY: Generation of identifiers on the command line: a lease first, then one line for each.
import Chronicle.Generator.Schedule

namespace Chronicle.CommandLine

/-- The line of an identifier: both forms with a tab between them. -/
def generatedLine (u : Uid) : String :=
  u.toDisplay ++ "\t" ++ toString u.raw

/-- What is written for the identifiers issued: every line with its end. -/
def generatedOutput (ids : List Uid) : String :=
  String.join (ids.map fun u => generatedLine u ++ "\n")

/-- Lease a worker id, then issue identifiers. Without a lease there is nothing to issue. -/
def generate (W : Generator.World ω) (steps count : Nat) (s : Generator.Scene ω) :
    Generator.Taken × Generator.Scene ω :=
  match Generator.runAlone W steps .lease s with
  | (some (.ok _), s) => Generator.takeMany W steps .identifier count s
  | (result, s) => (⟨[], result⟩, s)

end Chronicle.CommandLine
