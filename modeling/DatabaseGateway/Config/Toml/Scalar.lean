import DatabaseGateway.Config.Document
import DatabaseGateway.Text.Numeral

/-!
The words of a TOML document that stand for a single value without quotes: truth values, whole and
fractional numbers, dates and times.
-/

namespace DatabaseGateway.Toml

open DatabaseGateway.Text (isDigit)

def digitValue? (c : Char) : Option Nat :=
  if isDigit c then some (c.toNat - '0'.toNat)
  else if 'a' ≤ c && c ≤ 'f' then some (c.toNat - 'a'.toNat + 10)
  else if 'A' ≤ c && c ≤ 'F' then some (c.toNat - 'A'.toNat + 10)
  else none

/-- Whether a text is digits of a base, with single underscores between digits allowed. `between`
says whether an underscore or the end may come next. -/
def areDigits (base : Nat) (between : Bool) : List Char → Bool
  | [] => between
  | '_' :: cs => between && areDigits base false cs
  | c :: cs => (digitValue? c).any (· < base) && areDigits base true cs

def digits? (base : Nat) (cs : List Char) : Option (List Char) :=
  if areDigits base false cs then some (cs.filter (· != '_')) else none

def decimal? : List Char → Option (List Char)
  | ['0'] => some ['0']
  | '0' :: _ => none
  | cs => digits? 10 cs

/-- The bound of whole numbers: they fit in 64 bits with a sign. -/
def integerBound : Nat := UInt64.size / 2

def whole? (base bound : Nat) (digits : Option (List Char)) : Option Int := do
  let n ← Text.valueBelow? base bound 0 ((← digits).filterMap digitValue?)
  return n

/-- A whole number, in decimal with an optional sign or in one of the marked bases. -/
def integer? : List Char → Option Int
  | '0' :: 'x' :: cs => whole? 16 integerBound (digits? 16 cs)
  | '0' :: 'o' :: cs => whole? 8 integerBound (digits? 8 cs)
  | '0' :: 'b' :: cs => whole? 2 integerBound (digits? 2 cs)
  | '-' :: cs => (whole? 10 (integerBound + 1) (decimal? cs)).map fun n => -n
  | '+' :: cs => whole? 10 integerBound (decimal? cs)
  | cs => whole? 10 integerBound (decimal? cs)

def unsign : List Char → List Char
  | '+' :: cs | '-' :: cs => cs
  | cs => cs

/-- A number with a fraction or an exponent: its digits, and the power of ten that the last one
counts. -/
structure Fraction where
  negative : Bool
  digits : List Char
  power : Int

/-- An exponent that has come to this takes no more digits. -/
def exponentBound : Nat := 0x10000

def magnitude? (cs : List Char) : Option Int :=
  (digits? 10 cs).map fun digits =>
    digits.foldl (fun n c => if n < exponentBound then n * 10 + Text.digitValue c else n) 0

def exponent? : List Char → Option Int
  | '-' :: cs => (magnitude? cs).map fun n => -n
  | '+' :: cs => magnitude? cs
  | cs => magnitude? cs

/-- A fractional number: a whole part, then a fraction, an exponent or both. -/
def fraction? (word : List Char) : Option Fraction := do
  let body := unsign word
  let mantissa := body.takeWhile fun c => c != 'e' && c != 'E'
  let whole := mantissa.takeWhile (· != '.')
  let fraction := mantissa.drop whole.length
  let exponent := body.drop mantissa.length
  if fraction.isEmpty && exponent.isEmpty then none
  let digits ← decimal? whole
  let places ← match fraction with
    | [] => some []
    | _ :: cs => digits? 10 cs
  let power ← match exponent with
    | [] => some 0
    | _ :: cs => exponent? cs
  return {
    negative := word.head? == some '-'
    digits := digits ++ places
    power := power - places.length }

/-- The least number that is rounded to infinity in double precision: half a unit above the largest
finite one. -/
def overflowBound : Nat := Nat.pow 2 1024 - Nat.pow 2 970

def overflowPlaces : Nat := 309

/-- Whether the amount of a number is at least `overflowBound`. The count of its digits before the
point, which may be negative, decides this unless it is that of the bound. Then the digits before
the point do, as the bound is whole. -/
def Fraction.overflows (f : Fraction) : Bool :=
  let digits := f.digits.dropWhile (· == '0')
  let size := digits.length + f.power
  if digits.isEmpty || size < overflowPlaces then false
  else if overflowPlaces < size then true
  else
    overflowBound ≤
      Text.decimalValue (digits.take overflowPlaces) * Nat.pow 10 (overflowPlaces - digits.length)

/-- Whether a word is a fractional number within the range, to which the negative infinity belongs,
or one of the special numbers. -/
def isFractional (word : List Char) : Bool :=
  match fraction? word with
  | some f => f.negative || !f.overflows
  | none => unsign word = "inf".toList || unsign word = "nan".toList

/-- Whether a text has the shape of a pattern, in which `0` stands for any digit. -/
def hasShape : (pattern text : List Char) → Bool
  | [], [] => true
  | '0' :: ps, c :: cs => isDigit c && hasShape ps cs
  | p :: ps, c :: cs => p == c && hasShape ps cs
  | _, _ => false

def between (low high : Nat) (digits : List Char) : Bool :=
  let n := Text.decimalValue digits
  low ≤ n && n ≤ high

def daysOf (year month : Nat) : Nat :=
  if month = 2 then
    if (year % 4 = 0 && year % 100 ≠ 0) || year % 400 = 0 then 29 else 28
  else if month = 4 || month = 6 || month = 9 || month = 11 then 30
  else 31

def isDate (cs : List Char) : Bool :=
  hasShape "0000-00-00".toList cs && between 1 12 ((cs.drop 5).take 2) &&
    between 1 (daysOf (Text.decimalValue (cs.take 4)) (Text.decimalValue ((cs.drop 5).take 2)))
      (cs.drop 8)

def isTime (cs : List Char) : Bool :=
  hasShape "00:00:00".toList (cs.take 8) && between 0 23 (cs.take 2) &&
    between 0 59 ((cs.drop 3).take 2) && between 0 60 ((cs.drop 6).take 2) &&
    match cs.drop 8 with
    | [] => true
    | '.' :: ds => !ds.isEmpty && ds.all isDigit
    | _ => false

def isZonedTime (cs : List Char) : Bool :=
  let isEnd := fun c => c == 'Z' || c == 'z' || c == '+' || c == '-'
  let time := cs.takeWhile fun c => !isEnd c
  isTime time && match cs.drop time.length with
    | [] => true
    | ['Z'] | ['z'] => true
    | _ :: offset =>
      hasShape "00:00".toList offset && between 0 23 (offset.take 2) &&
        between 0 59 (offset.drop 3)

def isMoment (word : List Char) : Bool :=
  isDate word || isTime word ||
    (isDate (word.take 10) && match word.drop 10 with
      | 'T' :: cs | 't' :: cs | ' ' :: cs => isZonedTime cs
      | _ => false)

def scalar? (word : List Char) : Option Document :=
  if word = "true".toList then some (.flag true)
  else if word = "false".toList then some (.flag false)
  else match integer? word with
    | some n => some (.integer n)
    | none =>
      if isFractional word then some .fraction
      else if isMoment word then some .moment
      else none

end DatabaseGateway.Toml
