/-!
Settings as they stand in a document, without anything known of their meaning: a tree of values
under names. A record of settings is read from a table by the names of its fields, or from a list
that gives the fields in their order.
-/

namespace DatabaseGateway

inductive Document where
  | null
  | flag (value : Bool)
  | integer (value : Int)
  | text (value : String)
  | list (items : List Document)
  | table (entries : List (String × Document))
  /-- A number that is not written as a whole one. No setting takes it. -/
  | fraction
  /-- A date or a time. It passes for a table whose entries no record has. -/
  | moment
  deriving Inhabited

namespace Document

variable {α : Type}

/-- The fields of a record, by name. A list stands for the fields in the order of `names`; it may
leave out the last ones, as long as it gives at least `least`. -/
def fields? (names : List String) (least : Nat) : Document → Option (String → Option Document)
  | table entries => some fun name => entries.lookup name
  | moment => some fun _ => none
  | list items =>
    if least ≤ items.length && items.length ≤ names.length then
      some fun name => (names.zip items).lookup name
    else none
  | _ => none

def text? : Document → Option String
  | text s => some s
  | _ => none

def flag? : Document → Option Bool
  | flag b => some b
  | _ => none

def natural? (bound : Nat) : Document → Option Nat
  | integer n => if 0 ≤ n && n < bound then some n.toNat else none
  | _ => none

def word16? (d : Document) : Option UInt16 := (natural? UInt16.size d).map UInt16.ofNat

def word32? (d : Document) : Option UInt32 := (natural? UInt32.size d).map UInt32.ofNat

def natural (n : Nat) : Document := integer n

def ofOption (write : α → Document) : Option α → Document
  | none => null
  | some a => write a

def optional? (read : Document → Option α) : Option Document → Option (Option α)
  | none | some null => some none
  | some d => (read d).map some

def withDefault? (read : Document → Option α) (default : α) : Option Document → Option α
  | none => some default
  | some d => read d

end Document

end DatabaseGateway
