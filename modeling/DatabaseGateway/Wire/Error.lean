import DatabaseGateway.Text.Quoted

/-!
The errors of the Postgres wire codec. Bytes that are merely incomplete are never an error.
-/

namespace DatabaseGateway.Wire

inductive Flaw where
  /-- `wanted` more bytes are needed where only `left` follow. -/
  | short (wanted offset left : Nat)
  | unterminated
  | negativeLength (length : Int)
  | negativeCount (count : Int)
  | trailing (count : Nat)
  | unknownStatus (byte : UInt8)
  | unknownTarget (byte : UInt8)
  | unsupportedVersion (version : Int)
  | invalidUtf8
  deriving DecidableEq, Repr

/-- Why bytes are refused. A tag of zero stands for the first packet, which has none. -/
inductive WireError where
  /-- The declared length does not cover the length field itself. -/
  | invalidLength (tag : UInt8) (length : Int)
  /-- The declared length is over the limit. -/
  | frameTooLarge (tag : UInt8) (length limit : Nat)
  /-- The payload of the named message is not what it has to be. -/
  | malformed (message : String) (flaw : Flaw)
  deriving DecidableEq, Repr

def Flaw.reason : Flaw → String
  | short wanted offset left => s!"needs {wanted} more bytes at offset {offset}, {left} left"
  | unterminated => "unterminated string"
  | negativeLength length => s!"negative value length {length}"
  | negativeCount count => s!"negative count {count}"
  | trailing count => s!"{count} trailing bytes"
  | unknownStatus byte => "unknown status " ++ Text.quotedByte byte
  | unknownTarget byte => "unknown target " ++ Text.quotedByte byte
  | unsupportedVersion version => s!"unsupported protocol version {version}"
  | invalidUtf8 => "invalid UTF-8"

def WireError.text : WireError → String
  | invalidLength tag length =>
    let shown := Text.quotedByte tag
    s!"invalid length {length} for message type {shown}"
  | frameTooLarge tag length limit =>
    let shown := Text.quotedByte tag
    s!"message type {shown} declares {length} bytes, over the {limit}-byte frame limit"
  | malformed message .invalidUtf8 => s!"invalid UTF-8 in {message}"
  | malformed message flaw =>
    let reason := flaw.reason
    s!"malformed {message}: {reason}"

end DatabaseGateway.Wire
