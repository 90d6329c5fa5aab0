import DatabaseGateway.Text.Numeral
import DatabaseGateway.Wire.Backend

/-!
What a statement gives: the names of its columns, its rows as texts, and the server's tag.
-/

namespace DatabaseGateway.Client

/-- The output of one statement. A null value is none. -/
structure QueryResult where
  columns : List String := []
  rows : List (List (Option String)) := []
  tag : String := ""
  deriving DecidableEq, Repr, Inhabited

namespace QueryResult

def column? (r : QueryResult) (name : String) : Option Nat :=
  r.columns.findIdx? (· == name)

def value? (r : QueryResult) (row : Nat) (name : String) : Option String := do
  ((← r.rows[row]?)[← r.column? name]?).join

def isNull? (r : QueryResult) (row : Nat) (name : String) : Option Bool := do
  let values ← r.rows[row]?
  let i ← r.column? name
  return values[i]? == some none

/-- The row count that a tag ends in, or zero if it ends in none. -/
def rowsAffected (r : QueryResult) : Nat :=
  let word := (r.tag.toList.reverse.takeWhile (· != ' ')).reverse
  (Text.unsigned? UInt64.size word).getD 0

end QueryResult

end DatabaseGateway.Client
