import DatabaseGateway.Text.Quoted

/-!
The text of a record in diagnostics: its name and its fields, each with its value.
-/

namespace DatabaseGateway.Text

/-- A record with the given fields. A record that is `abridged` has fields that are not shown. -/
def record (name : String) (fields : List (String × String)) (abridged : Bool) : String :=
  let shown := fields.map fun (field, value) => field ++ ": " ++ value
  let listed := if abridged then shown ++ [".."] else shown
  name ++ " \x7b " ++ ", ".intercalate listed ++ " \x7d"

def optional {α : Type} (show' : α → String) : Option α → String
  | none => "None"
  | some a => "Some(" ++ show' a ++ ")"

def flag (b : Bool) : String := if b then "true" else "false"

/-- What is shown in place of a password that is set. -/
def redacted (password : Option String) : String :=
  optional (fun _ => quoted "<redacted>") password

end DatabaseGateway.Text
