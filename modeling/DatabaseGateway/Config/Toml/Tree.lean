import DatabaseGateway.Config.Document

/-!
The tables of a TOML document while it is being read. A table may come into being on the way to
another one, by a header, or by a dotted key; which of these it was decides how it may be added to
later.
-/

namespace DatabaseGateway.Toml

inductive Node where
  /-- A value, which is complete. -/
  | value (document : Document)
  /-- A table. It is `implicit` while no header has named it, and `dotted` if a dotted key made
  it. -/
  | table (implicit dotted : Bool) (entries : List (String × Node))
  /-- Tables under one repeated header, newest first. -/
  | tables (rows : List (List (String × Node)))

abbrev Entries := List (String × Node)

/-- Sets the place of a name, at the end if the name is new. -/
def Entries.put (name : String) (node : Node) : Entries → Entries
  | [] => [(name, node)]
  | (n, old) :: es => if n = name then (n, node) :: es else (n, old) :: put name node es

/-- Changes the table at the end of a path, making the tables on the way that are missing. A dotted
path passes only through tables that no header has named. `change` is told whether the table it
gets was made by a dotted key. -/
def Entries.descend (dotted : Bool) (change : Bool → Entries → Option Entries) :
    (path : List String) → (here : Bool) → Entries → Option Entries
  | [], here, es => change here es
  | name :: path, _, es =>
    match es.lookup name with
    | none => do
      let inner ← descend dotted change path dotted []
      return es.put name (.table true dotted inner)
    | some (.value _) => none
    | some (.tables []) => none
    | some (.tables (newest :: rows)) => do
      let inner ← descend dotted change path false newest
      return es.put name (.tables (inner :: rows))
    | some (.table implicit wasDotted inner) =>
      if dotted && !implicit then none
      else do
        let inner ← descend dotted change path wasDotted inner
        return es.put name (.table implicit wasDotted inner)

/-- Gives a value to the key at the end of a dotted path. The key must be new, and a table that
was not made by dotted keys is not added to by them. -/
def Entries.assign (path : List String) (name : String) (value : Document) (es : Entries) :
    Option Entries :=
  Entries.descend true (fun here inner =>
    if here == path.isEmpty then none
    else if (inner.lookup name).isSome then none
    else some (inner.put name (.value value))) path false es

def Entries.openTable (path : List String) (name : String) (es : Entries) : Option Entries :=
  Entries.descend false (fun _ inner =>
    match inner.lookup name with
    | none => some (inner.put name (.table false false []))
    | some (.table true false old) => some (inner.put name (.table false false old))
    | _ => none) path false es

def Entries.openRow (path : List String) (name : String) (es : Entries) : Option Entries :=
  Entries.descend false (fun _ inner =>
    match inner.lookup name with
    | none => some (inner.put name (.tables [[]]))
    | some (.tables rows) => some (inner.put name (.tables ([] :: rows)))
    | _ => none) path false es

mutual

def Node.toDocument : Node → Document
  | .value d => d
  | .table _ _ es => .table (documents es)
  | .tables rows => .list (rowDocuments rows).reverse

def documents : List (String × Node) → List (String × Document)
  | [] => []
  | (name, node) :: es => (name, node.toDocument) :: documents es

def rowDocuments : List (List (String × Node)) → List Document
  | [] => []
  | es :: rows => .table (documents es) :: rowDocuments rows

end

end DatabaseGateway.Toml
