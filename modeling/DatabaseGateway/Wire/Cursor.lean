import DatabaseGateway.Bytes
import DatabaseGateway.Text.Utf8
import DatabaseGateway.Wire.Error

/-!
Writing and reading the fields of a message: words, strings that end in a zero byte, values that
may be null, and counted lists.

Each reader undoes the writer of its kind of field.
-/

namespace DatabaseGateway.Wire

/-! ## Writing -/

def putInt16 (n : Int16) : Bytes := Bytes.be 2 n.toUInt16.toNat

def putInt32 (n : Int32) : Bytes := Bytes.be 4 n.toUInt32.toNat

def putWord32 (n : UInt32) : Bytes := Bytes.be 4 n.toNat

/-- A count in sixteen bits; higher bits are lost. -/
def putCount (n : Nat) : Bytes := Bytes.be 2 n

def putText (s : String) : Bytes := Text.encode s ++ [0]

/-- A value behind its length, or the length minus one for null. -/
def putValue : Option Bytes → Bytes
  | none => putInt32 (-1)
  | some bytes => Bytes.be 4 bytes.length ++ bytes

/-! ## Reading -/

/-- A place inside a payload: the bytes from here on, and how many came before. -/
structure Cursor where
  rest : Bytes
  offset : Nat := 0
  deriving DecidableEq, Repr

abbrev Reader (α : Type) := StateT Cursor (Except Flaw) α

namespace Reader

variable {α : Type}

def take (n : Nat) : Reader Bytes := fun c =>
  let taken := c.rest.take n
  if taken.length = n then .ok (taken, ⟨c.rest.drop n, c.offset + n⟩)
  else .error (.short n c.offset c.rest.length)

def byte : Reader UInt8 := fun c =>
  match c.rest with
  | b :: rest => .ok (b, ⟨rest, c.offset + 1⟩)
  | [] => .error (.short 1 c.offset 0)

def word16 : Reader UInt16 := do return UInt16.ofNat (Bytes.beValue (← take 2))

def word32 : Reader UInt32 := do return UInt32.ofNat (Bytes.beValue (← take 4))

def int16 : Reader Int16 := do return (← word16).toInt16

def int32 : Reader Int32 := do return (← word32).toInt32

def text : Reader String := fun c =>
  let bytes := c.rest.takeWhile (· != 0)
  match c.rest.drop bytes.length with
  | [] => .error .unterminated
  | _ :: rest =>
    match Text.decode? bytes with
    | none => .error .invalidUtf8
    | some s => .ok (s, ⟨rest, c.offset + bytes.length + 1⟩)

def value : Reader (Option Bytes) := do
  let length ← int32
  if length = -1 then return none
  else if length.toInt < 0 then throw (.negativeLength length.toInt)
  else return some (← take length.toInt.toNat)

def count : Reader Nat := do
  let n ← int16
  if n.toInt < 0 then throw (.negativeCount n.toInt) else return n.toInt.toNat

def many (item : Reader α) : Nat → Reader (List α)
  | 0 => return []
  | n + 1 => do
    let first ← item
    let others ← many item n
    return first :: others

def counted (item : Reader α) : Reader (List α) := do many item (← count)

def finish : Reader Unit := fun c =>
  if c.rest.isEmpty then .ok ((), c) else .error (.trailing c.rest.length)

def decode (message : String) (reader : Reader α) (payload : Bytes) : Except WireError α :=
  match reader ⟨payload, 0⟩ with
  | .ok (a, _) => .ok a
  | .error flaw => .error (.malformed message flaw)

end Reader

end DatabaseGateway.Wire
