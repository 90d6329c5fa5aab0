/-!
Writing a string in TOML. There are four forms: in double quotes with escapes or in single quotes
without, and each of them on one line or on several. The first form that shows the string as it is
wins; if there is none, the string is written with escapes.
-/

namespace DatabaseGateway.Toml

inductive StringForm where
  /-- In double quotes, on one line. -/
  | basic
  /-- In single quotes, on one line. -/
  | literal
  /-- In double quotes, on several lines. -/
  | basicLines
  /-- In single quotes, on several lines. -/
  | literalLines
  deriving DecidableEq, Repr

/-- The length of the longest run of a character, if the text stands behind `run` of them. -/
def longestRun (c : Char) (run : Nat) : List Char → Nat
  | [] => run
  | d :: cs => if d = c then longestRun c (run + 1) cs else max run (longestRun c 0 cs)

/-- The controls that no form can show: all but the tab and the line break. -/
def isCoded (c : Char) : Bool :=
  (c.toNat < 0x20 || c.toNat == 0x7f) && c != '\t' && c != '\n'

namespace StringForm

def choose (cs : List Char) : StringForm :=
  let broken := cs.contains '\n'
  let coded := cs.any isCoded
  let escaped := coded || cs.contains '\\'
  let doubles := longestRun '"' 0 cs
  let singles := longestRun '\'' 0 cs
  if !escaped && doubles = 0 && !broken then basic
  else if !coded && singles = 0 && !broken then literal
  else if !escaped && doubles ≤ 2 then basicLines
  else if !coded && singles ≤ 2 then literalLines
  else if broken then basicLines
  else basic

def delimiter : StringForm → List Char
  | basic => ['"']
  | literal => ['\'']
  | basicLines => ['"', '"', '"']
  | literalLines => ['\'', '\'', '\'']

def hasLines : StringForm → Bool
  | basicLines | literalLines => true
  | basic | literal => false

end StringForm

def escape (c : Char) : List Char :=
  match c with
  | '\x08' => ['\\', 'b']
  | '\t' => ['\\', 't']
  | '\n' => ['\\', 'n']
  | '\x0c' => ['\\', 'f']
  | '\r' => ['\\', 'r']
  | '\\' => ['\\', '\\']
  | c =>
    if isCoded c then
      let digits := (Nat.toDigits 16 c.toNat).map Char.toUpper
      ['\\', 'u'] ++ List.replicate (4 - digits.length) '0' ++ digits
    else [c]

/-- The inside of a string in double quotes behind `run` double quotes. On several lines, up to two
double quotes in a row and the line breaks stand as they are. -/
def escapeFrom (lines : Bool) (run : Nat) : List Char → List Char
  | [] => []
  | c :: cs =>
    if c = '"' then
      if lines && run < 2 then c :: escapeFrom lines (run + 1) cs
      else '\\' :: c :: escapeFrom lines 0 cs
    else if lines && c = '\n' then c :: escapeFrom lines 0 cs
    else escape c ++ escapeFrom lines 0 cs

/-- A string in a form. A string with line breaks starts on a line of its own. -/
def StringForm.write (form : StringForm) (cs : List Char) : List Char :=
  let start := if form.hasLines && cs.contains '\n' then ['\n'] else []
  let inside := match form with
    | basic | basicLines => escapeFrom form.hasLines 0 cs
    | literal | literalLines => cs
  form.delimiter ++ start ++ inside ++ form.delimiter

def written (s : String) : String :=
  let cs := s.toList
  String.ofList ((StringForm.choose cs).write cs)

end DatabaseGateway.Toml
