import DatabaseGateway.Text.Hidden

/-!
Quoted characters and strings, as diagnostics show them: between quotes, on one line, with every
character that would not show as itself written as an escape.
-/

namespace DatabaseGateway.Text

/-- One character inside the given quotes: the quote itself and the backslash after a backslash,
the common controls by their letter, other hidden characters by their code in hexadecimal. -/
def escape (quote c : Char) : List Char :=
  if c = quote || c = '\\' then ['\\', c]
  else if c = '\x00' then ['\\', '0']
  else if c = '\t' then ['\\', 't']
  else if c = '\r' then ['\\', 'r']
  else if c = '\n' then ['\\', 'n']
  else if isHidden c then
    ['\\', 'u', '\x7b'] ++ Nat.toDigits 16 c.toNat ++ ['\x7d']
  else [c]

def quotedChar (c : Char) : String :=
  String.ofList ('\'' :: escape '\'' c ++ ['\''])

def quotedByte (b : UInt8) : String :=
  quotedChar (Char.ofNat b.toNat)

def quoted (s : String) : String :=
  String.ofList ('"' :: s.toList.flatMap (escape '"') ++ ['"'])

end DatabaseGateway.Text
