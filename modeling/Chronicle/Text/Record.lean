-- SUMMARY: The one-line form of a value with named fields, as diagnostics print it.

/-!
# Records in diagnostics

`Name { field: value, field: value }`, or `Name { field: value, .. }` when fields are left out.
-/

namespace Chronicle.Text

/-- The fields of a record, each as `name: value`. -/
def recordFields (fields : List (String × String)) : String :=
  ", ".intercalate (fields.map fun (name, value) => name ++ ": " ++ value)

/-- A record that shows all of its fields. -/
def record (name : String) (fields : List (String × String)) : String :=
  name ++ " \x7b " ++ recordFields fields ++ " \x7d"

/-- A record of which some fields are not shown. -/
def openRecord (name : String) (fields : List (String × String)) : String :=
  name ++ " \x7b " ++ recordFields fields ++ ", .. \x7d"

end Chronicle.Text
