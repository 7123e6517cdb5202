import LatestTag.Text.Quoted

/-!
# Values in diagnostics

Diagnostics show a value by its structure: a record with the names of its fields, a constructor with
its arguments, a list in brackets, an optional value as `Some` or `None`. The parts are already
text; texts among them are quoted as in `LatestTag.Text.Quoted`.
-/

namespace LatestTag.Text

/-- A record: its name and its fields, each with a name. -/
def inspectRecord (name : String) (fields : List (String × String)) : String :=
  name ++ " \x7b " ++ ", ".intercalate (fields.map fun (field, value) => field ++ ": " ++ value)
    ++ " \x7d"

/-- A constructor with one argument. -/
def inspectTuple (name value : String) : String := name ++ "(" ++ value ++ ")"

/-- A list. -/
def inspectList (values : List String) : String := "[" ++ ", ".intercalate values ++ "]"

/-- An optional value. -/
def inspectOption : Option String → String
  | some value => inspectTuple "Some" value
  | none => "None"

/-- A truth value. -/
def inspectBool (b : Bool) : String := if b then "true" else "false"

end LatestTag.Text
