import DatabaseGateway.Error
import DatabaseGateway.Text.Blank
import DatabaseGateway.Text.Numeral

/-!
Spans of time in nanoseconds, the texts that set them, such as `250ms` or `2m`, and the text that
shows them. A span is representable while its whole seconds fit in 64 bits.
-/

namespace DatabaseGateway

structure Duration where
  nanos : Nat
  deriving DecidableEq, Repr, Inhabited

namespace Duration

def ofMillis (n : Nat) : Duration := ⟨n * 1000000⟩

def ofSeconds (n : Nat) : Duration := ⟨n * 1000000000⟩

def seconds (d : Duration) : Nat := d.nanos / 1000000000

def subsecond (d : Duration) : Nat := d.nanos % 1000000000

def millis (d : Duration) : Nat := d.nanos / 1000000

def times (d : Duration) (n : Nat) : Duration := ⟨d.nanos * n⟩

def max (d e : Duration) : Duration := if d.nanos < e.nanos then e else d

/-- Whether the whole seconds fit in 64 bits. -/
def Representable (d : Duration) : Prop := d.seconds < UInt64.size

instance (d : Duration) : Decidable d.Representable :=
  inferInstanceAs (Decidable (_ < _))

/-- The first number that does not fit in 64 bits. -/
def numeralBound : Nat := UInt64.size

def unitSeconds? : List Char → Option Nat
  | ['s'] => some 1
  | ['m'] => some 60
  | ['h'] => some 3600
  | _ => none

/-- Reads a text such as `150ms`, `5s`, `2m` or `1h`: digits directly followed by a unit, with
blanks allowed around it. The number and its seconds have to fit in 64 bits. -/
def parse (text : String) : Except GatewayError Duration :=
  let body := Text.trim text.toList
  let shown := String.ofList body
  let invalid := GatewayError.invalidConfig s!"invalid duration '{shown}'"
  let unit := body.dropWhile Text.isDigit
  match Text.digits? numeralBound (body.takeWhile Text.isDigit) with
  | none => .error invalid
  | some n =>
    if unit = ['m', 's'] then .ok (ofMillis n)
    else match unitSeconds? unit with
      | none => .error invalid
      | some scale =>
        if n * scale < numeralBound then .ok (ofSeconds (n * scale))
        else .error (.invalidConfig s!"duration '{shown}' is out of range")

/-- The digits of a fraction of `width` places, without the zeros it ends in. -/
def fractionDigits (width n : Nat) : List Char :=
  let digits := Nat.toDigits 10 n
  let padded := List.replicate (width - digits.length) '0' ++ digits
  ((padded.reverse).dropWhile (· == '0')).reverse

def showDecimal (whole fraction width : Nat) (unit : String) : String :=
  let places := fractionDigits width fraction
  let tail := if places.isEmpty then "" else "." ++ String.ofList places
  toString whole ++ tail ++ unit

/-- A span in the largest unit that does not exceed it, as `1.5s`, `250ms` or `0ns`. -/
def text (d : Duration) : String :=
  if 1000000000 ≤ d.nanos then
    showDecimal (d.nanos / 1000000000) (d.nanos % 1000000000) 9 "s"
  else if 1000000 ≤ d.nanos then
    showDecimal (d.nanos / 1000000) (d.nanos % 1000000) 6 "ms"
  else if 1000 ≤ d.nanos then
    showDecimal (d.nanos / 1000) (d.nanos % 1000) 3 "µs"
  else showDecimal d.nanos 0 0 "ns"

end Duration

end DatabaseGateway
