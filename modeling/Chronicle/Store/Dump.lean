-- SUMMARY: Databases written as lines of text, one for each entry, and read back.
import Chronicle.Store.Database

/-!
# Dumps

A line holds the name of the tree, the key and the value, each in hexadecimal behind an equals sign
so that an empty one can be seen.
-/

namespace Chronicle.Database

/-- The line of an entry. -/
def entryLine (name : String) (key value : Bytes) : String :=
  " ".intercalate (([Bytes.ofString name, key, value]).map fun b => "=" ++ b.toHex)

/-- The bytes of a part of a line. -/
def part? (s : String) : Option Bytes :=
  match s.toList with
  | '=' :: digits => Bytes.ofHexDigits? digits
  | _ => none

/-- Store the entry of a line. -/
def addLine? (db : Database) (line : String) : Option Database := do
  let [name, key, value] ← (line.splitOn " ").mapM part? | none
  let name ← Bytes.toString? name
  return db.setTree name ((db.tree name).insert key value)

/-- All entries, tree by tree and in the order of their keys. -/
def dump (db : Database) : List String :=
  db.trees.entries.flatMap fun (name, tree) =>
    tree.entries.map fun (key, value) => entryLine name key value

/-- The database of which lines are the dump. -/
def ofDump? (lines : List String) : Option Database :=
  lines.foldlM addLine? empty

end Chronicle.Database
