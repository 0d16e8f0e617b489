-- SUMMARY: A database: named trees, each an ordered map from byte strings to byte strings.
import Chronicle.Store.Bytes
import Chronicle.Store.OrderedMap

/-!
# Databases

A tree that was never written to is empty. What is written stays, so closing a database and opening
it again leaves it as it was.
-/

namespace Chronicle

/-- An ordered map of byte strings. -/
abbrev Tree := OrderedMap Bytes Bytes

structure Database where
  trees : OrderedMap String Tree

namespace Database

def empty : Database := ⟨.empty⟩

def tree (db : Database) (name : String) : Tree :=
  (db.trees.get? name).getD .empty

def setTree (db : Database) (name : String) (t : Tree) : Database :=
  ⟨db.trees.insert name t⟩

@[simp] theorem tree_setTree_self (db : Database) (name : String) (t : Tree) :
    (db.setTree name t).tree name = t := by
  simp [tree, setTree]

end Database

end Chronicle
